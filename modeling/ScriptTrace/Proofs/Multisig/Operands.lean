import Mathlib.Data.List.Basic
import ScriptTrace.Proofs.Arity
import ScriptTrace.Proofs.Effect.Numbers
import ScriptTrace.Proofs.Effect.Outcome

/-!
# The operands of a multiple check

A multiple check reads two counts and as many items as they say, so what it takes off the stack depends on the stack. `MultisigOperands` is a stack on which it can be carried out, taken apart into what is read and what is left, with the conditions that the check imposes. On such a stack the check comes to a verdict, and the verdict depends on the keys and signatures alone; on every other stack it fails without one.
-/

namespace ScriptTrace

open Stack (ofList)

/-- What a multiple check finds on a stack that it accepts. -/
structure MultisigOperands (v : Verifier) where
  pubkeyCount : Instruction
  pubkeys : List Instruction
  signatureCount : Instruction
  signatures : List Instruction
  /-- The items below, which are not looked at. -/
  rest : List Instruction
  pubkeyCount_eq : pubkeyCount.number?.map Int64.toInt = some (pubkeys.length : Int)
  signatureCount_eq : signatureCount.number?.map Int64.toInt = some (signatures.length : Int)
  isPubkey_of_mem : ∀ key ∈ pubkeys, v.isPubkey key = true
  isSignature_of_mem : ∀ signature ∈ signatures, v.isSignature signature = true
  length_le : signatures.length ≤ pubkeys.length

namespace MultisigOperands

variable {v : Verifier}

/-- The stack, top first. -/
def stack (o : MultisigOperands v) : List Instruction :=
  o.pubkeyCount :: (o.pubkeys ++ o.signatureCount :: (o.signatures ++ o.rest))

theorem stack_ne_nil (o : MultisigOperands v) : o.stack ≠ [] := List.cons_ne_nil _ _

/-- The number of distinct pairs that verify. -/
def verified (o : MultisigOperands v) : Nat := (Effect.verifiedPairs v o.signatures o.pubkeys).length

def check (o : MultisigOperands v) : Check :=
  .multisig o.verified o.signatures.length o.pubkeys.length

def passes (o : MultisigOperands v) : Bool := o.signatures.length ≤ o.verified

end MultisigOperands

/-- A verdict is the failure of a test that was carried out. -/
def Failure.isVerdict : Failure → Bool
  | .verifyFailed _ _ => true
  | _ => false

namespace Effect

open StackM

variable (v : Verifier) (op : Opcode)

/-! ### Accepted stacks -/

theorem popAccepted_append {accept : Instruction → Bool} (shortfall : Nat → MultisigFault)
    (received : Nat) {items : List Instruction} (h : ∀ x ∈ items, accept x = true)
    (rest : List Instruction) :
    popAccepted op accept shortfall received items.length (ofList (items ++ rest)) =
      .ok items (ofList rest) := by
  have hlength : items.length ≤ (items ++ rest).length := by
    rw [List.length_append]
    omega
  have hfind : items.findIdx? (fun x => !accept x) = none := by
    rw [List.findIdx?_eq_none_iff]
    intro x hx
    rw [h x hx, Bool.not_true]
  rw [popAccepted_listed op accept shortfall hlength, List.take_left, List.drop_left, hfind]

theorem popPubkeys_append {count : Instruction} {pubkeys : List Instruction}
    (hcount : count.number?.map Int64.toInt = some (pubkeys.length : Int))
    (hpubkeys : ∀ key ∈ pubkeys, v.isPubkey key = true) (rest : List Instruction) :
    popPubkeys v op (ofList (count :: (pubkeys ++ rest))) = .ok pubkeys (ofList rest) := by
  have hsize : 0 ≤ (pubkeys.length : Int) ∧ (pubkeys.length : Int) ≤ (pubkeys ++ rest).length := by
    rw [List.length_append]
    omega
  simp only [popPubkeys, bind_apply, popNumber_of_some hcount, size_listed]
  rw [if_pos hsize, Int.toNat_natCast]
  exact popAccepted_append op _ 0 hpubkeys rest

theorem popSignatures_append {count : Instruction} {signatures : List Instruction} {pubkeys : Nat}
    (hcount : count.number?.map Int64.toInt = some (signatures.length : Int))
    (hsignatures : ∀ signature ∈ signatures, v.isSignature signature = true)
    (hle : signatures.length ≤ pubkeys) (rest : List Instruction) :
    popSignatures v op pubkeys (ofList (count :: (signatures ++ rest))) =
      .ok signatures (ofList rest) := by
  have hsize : 0 ≤ (signatures.length : Int) ∧ (signatures.length : Int) ≤ pubkeys ∧
      (signatures.length : Int) ≤ (signatures ++ rest).length := by
    rw [List.length_append]
    omega
  simp only [popSignatures, bind_apply, popNumber_of_some hcount, size_listed, List.length_cons,
    Nat.add_one_ne_zero, if_false]
  rw [if_pos hsize, Int.toNat_natCast]
  exact popAccepted_append op _ 0 hsignatures rest

/-- On an accepted stack the check comes to its verdict, with what is left. -/
theorem checkMultisig_stack (enforced : Bool) (o : MultisigOperands v) :
    checkMultisig v op enforced (ofList o.stack) =
      conclude op o.check o.passes enforced (ofList o.rest) := by
  rw [MultisigOperands.stack, checkMultisig, bind_apply,
    popPubkeys_append v op o.pubkeyCount_eq o.isPubkey_of_mem]
  dsimp only
  rw [bind_apply, popSignatures_append v op o.signatureCount_eq o.isSignature_of_mem o.length_le]
  rfl

/-! ### All other stacks -/

theorem popAccepted_ensures (accept : Instruction → Bool) (shortfall : Nat → MultisigFault) {n : Int}
    {l : List Instruction} (hnonneg : 0 ≤ n) (hle : n ≤ l.length) :
    (popAccepted op accept shortfall 0 n.toNat).Ensures (ofList l)
      (fun items t => ∃ rest, l = items ++ rest ∧ t = ofList rest ∧ n = items.length ∧
        ∀ x ∈ items, accept x = true)
      fun failure _ => failure.isVerdict = false := by
  have hlength : n.toNat ≤ l.length := by omega
  rw [Ensures, popAccepted_listed op accept shortfall hlength]
  cases hfind : (l.take n.toNat).findIdx? (fun x => !accept x) with
  | some j => rfl
  | none =>
      rw [List.findIdx?_eq_none_iff] at hfind
      refine ⟨l.drop n.toNat, (List.take_append_drop _ _).symm, rfl, ?_, fun x hx => ?_⟩
      · rw [List.length_take]
        omega
      · have hx := hfind x hx
        rwa [Bool.not_eq_false'] at hx

theorem popPubkeys_ensures (l : List Instruction) :
    (popPubkeys v op).Ensures (ofList l)
      (fun pubkeys t => ∃ count rest, l = count :: (pubkeys ++ rest) ∧ t = ofList rest ∧
        count.number?.map Int64.toInt = some (pubkeys.length : Int) ∧
        ∀ key ∈ pubkeys, v.isPubkey key = true)
      fun failure _ => failure.isVerdict = false := by
  cases l with
  | nil => rfl
  | cons count l =>
      rw [Ensures, popPubkeys, bind_apply]
      cases hcount : count.value? with
      | none =>
          rw [popNumber_of_none hcount]
          rfl
      | some n =>
          simp only [popNumber_of_some hcount, bind_apply, size_listed]
          by_cases hsize : 0 ≤ n ∧ n ≤ l.length
          · rw [if_pos hsize]
            refine (popAccepted_ensures op _ _ hsize.1 hsize.2).mono ?_
            rintro pubkeys t ⟨rest, rfl, rfl, hn, haccepted⟩
            exact ⟨count, rest, rfl, rfl, hn ▸ hcount, haccepted⟩
          · rw [if_neg hsize]
            rfl

theorem popSignatures_ensures (pubkeys : Nat) (l : List Instruction) :
    (popSignatures v op pubkeys).Ensures (ofList l)
      (fun signatures t => ∃ count rest, l = count :: (signatures ++ rest) ∧ t = ofList rest ∧
        count.number?.map Int64.toInt = some (signatures.length : Int) ∧
        (∀ signature ∈ signatures, v.isSignature signature = true) ∧ signatures.length ≤ pubkeys)
      fun failure _ => failure.isVerdict = false := by
  cases l with
  | nil => rfl
  | cons count l =>
      rw [Ensures, popSignatures, bind_apply, size_listed]
      dsimp only
      rw [List.length_cons, if_neg (Nat.add_one_ne_zero _), bind_apply]
      cases hcount : count.value? with
      | none =>
          rw [popNumber_of_none hcount]
          rfl
      | some n =>
          simp only [popNumber_of_some hcount, bind_apply, size_listed]
          by_cases hsize : 0 ≤ n ∧ n ≤ pubkeys ∧ n ≤ l.length
          · rw [if_pos hsize]
            refine (popAccepted_ensures op _ _ hsize.1 hsize.2.2).mono ?_
            rintro signatures t ⟨rest, rfl, rfl, hn, haccepted⟩
            exact ⟨count, rest, rfl, rfl, hn ▸ hcount, haccepted, by omega⟩
          · rw [if_neg hsize]
            rfl

/-- A stack that is not accepted leads to a failure that is no verdict. -/
theorem exists_operands_or_error (enforced : Bool) (l : List Instruction) :
    (∃ o : MultisigOperands v, l = o.stack) ∨
      ∃ failure t, checkMultisig v op enforced (ofList l) = .error failure t ∧
        failure.isVerdict = false := by
  rw [checkMultisig, bind_apply]
  cases hpubkeys : popPubkeys v op (ofList l) with
  | error failure t => exact .inr ⟨failure, t, rfl, (popPubkeys_ensures v op l).of_error hpubkeys⟩
  | ok pubkeys t =>
      obtain ⟨pubkeyCount, m, rfl, rfl, hpubkeyCount, hisPubkey⟩ :=
        (popPubkeys_ensures v op l).of_ok hpubkeys
      have hensures := popSignatures_ensures v op pubkeys.length m
      dsimp only
      rw [bind_apply]
      cases hsignatures : popSignatures v op pubkeys.length (ofList m) with
      | error failure t => exact .inr ⟨failure, t, rfl, hensures.of_error hsignatures⟩
      | ok signatures t =>
          obtain ⟨signatureCount, rest, rfl, rfl, hsignatureCount, hisSignature, hle⟩ :=
            hensures.of_ok hsignatures
          exact .inl ⟨⟨pubkeyCount, pubkeys, signatureCount, signatures, rest, hpubkeyCount,
            hsignatureCount, hisPubkey, hisSignature, hle⟩, rfl⟩

end Effect

/-! ### The opcodes -/

namespace Opcode

variable {v : Verifier} {op : Opcode} {enforced : Bool}

theorem execute_checkMultisig (hop : op.operation? = some (.checkMultisig enforced))
    {l : List Instruction} (hl : l ≠ []) :
    op.execute v (ofList l) = Effect.checkMultisig v op enforced (ofList l) := by
  have hsize : op.argCount ≤ (ofList l).size := by
    rw [argCount_of_operation? hop, Stack.size_ofList]
    exact List.length_pos_of_ne_nil hl
  rw [execute_of_operation? hop hsize]
  change Effect.checkSignatures v op (ofList l) = _
  rw [Effect.checkSignatures, hop]

theorem execute_multisigOperands (hop : op.operation? = some (.checkMultisig enforced))
    (o : MultisigOperands v) :
    op.execute v (ofList o.stack) =
      Effect.conclude op o.check o.passes enforced (ofList o.rest) := by
  rw [execute_checkMultisig hop o.stack_ne_nil, Effect.checkMultisig_stack]

theorem exists_operands_or_execute_error (hop : op.operation? = some (.checkMultisig enforced))
    (l : List Instruction) :
    (∃ o : MultisigOperands v, l = o.stack) ∨
      ∃ failure t, op.execute v (ofList l) = .error failure t ∧ failure.isVerdict = false := by
  cases l with
  | nil =>
      have hsize : (ofList []).size < op.argCount := by
        rw [argCount_of_operation? hop, Stack.size_ofList]
        exact Nat.one_pos
      exact .inr ⟨_, _, execute_of_size_lt (disabled_of_operation? hop) hsize, rfl⟩
  | cons x l =>
      rw [execute_checkMultisig hop (List.cons_ne_nil x l)]
      exact Effect.exists_operands_or_error v op enforced (x :: l)

end Opcode

end ScriptTrace
