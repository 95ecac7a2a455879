import Mathlib.Data.List.Basic
import ScriptTrace.Proofs.Arity
import ScriptTrace.Proofs.Effect.Numbers
import ScriptTrace.Proofs.Multisig.Operands
import ScriptTrace.Proofs.Trace.Run

/-!
# What a failed step leaves

Nothing is put back when an instruction fails: the stack of a failed step is the one that the failure found. An opcode that is refused has not touched the stack yet. An operation that fails has taken operands off one after the other, up to the one at which it stops, and those are gone. Nothing else has changed, except that `OP_EQUALVERIFY` pushes its flag before it fails.

`Opcode.acceptance` lists the operands that an opcode reads, in order, each with whether the opcode goes on after it; how many are gone is counted in that list. The proofs go by operations and read the same lists off `Operation.acceptance`.
-/

namespace ScriptTrace

open Stack (ofList)

/-! ### Operands in order -/

def Instruction.isNumber (i : Instruction) : Bool := i.value?.isSome

/-- The count that an instruction stands for, if that is within the limit. -/
def Instruction.countUpTo? (i : Instruction) (limit : Nat) : Option Nat :=
  (i.value?.filter fun n : Int => 0 ≤ n ∧ n ≤ limit).map Int.toNat

/-- How many operands are read if the first one that is not accepted is the last. -/
def operandsRead : List Bool → Nat
  | [] => 0
  | accepted :: rest => (if accepted then operandsRead rest else 0) + 1

/-- A count within the limit, and as many items as it says. -/
def countedAcceptance (accept : Instruction → Bool) (limit : Nat) : List Instruction → List Bool
  | [] => []
  | count :: l =>
    (count.countUpTo? (min limit l.length)).elim [false] fun n => true :: (l.take n).map accept

/-- The keys with their count, and then the signatures with theirs. -/
def multisigAcceptance (v : Verifier) (l : List Instruction) : List Bool :=
  let pubkeys := countedAcceptance v.isPubkey l.length l
  pubkeys ++ countedAcceptance v.isSignature (pubkeys.length - 1) (l.drop pubkeys.length)

/-- The operands that an operation reads, top first, each with whether it is accepted. -/
def Operation.acceptance (v : Verifier) : Operation → List Instruction → List Bool
  | .unary _, l | .rearrange _, l => (l.take 1).map (·.isNumber)
  | .binary _, l | .numEqualVerify, l => (l.take 2).map (·.isNumber)
  | .within, l => (l.take 3).map (·.isNumber)
  | .verify, l => (l.take 1).map fun _ => true
  | .equal _, l | .checkSig _, l => (l.take 2).map fun _ => true
  | .checkMultisig _, l => multisigAcceptance v l

theorem operandsRead_le_length (l : List Bool) : operandsRead l ≤ l.length := by
  induction l with
  | nil => exact Nat.le_refl 0
  | cons accepted rest ih =>
      rw [operandsRead, List.length_cons]
      split
      · omega
      · omega

theorem operandsRead_replicate_append (n : Nat) (l : List Bool) :
    operandsRead (List.replicate n true ++ l) = n + operandsRead l := by
  induction n with
  | zero => simp
  | succ n ih =>
      rw [List.replicate_succ, List.cons_append, operandsRead, if_pos rfl, ih]
      omega

theorem operandsRead_replicate (n : Nat) : operandsRead (List.replicate n true) = n := by
  rw [← List.append_nil (List.replicate n true), operandsRead_replicate_append, operandsRead]
  omega

/-! ### Rules -/

namespace StackM

variable {α β : Type} {op : Opcode} {x : Instruction} {l : List Instruction} {j : Nat}

/-- If the computation fails, what it leaves is all but the first `j` items. -/
def Leaves (c : StackM α) (l : List Instruction) (j : Nat) : Prop :=
  c.Ensures (ofList l) (fun _ _ => True) fun _ t => t = ofList (l.drop j)

theorem Leaves.pure {a : α} : (Pure.pure a : StackM α).Leaves l j := trivial

theorem Leaves.throw {failure : Failure} : (MonadExcept.throw failure : StackM α).Leaves l 0 := rfl

theorem Leaves.push_pure {a : α} : (push x >>= fun _ => Pure.pure a).Leaves l j := trivial

theorem Leaves.pushNumber_pure {n : Int} {a : α} :
    (pushNumber op n >>= fun _ => Pure.pure a).Leaves l 0 := by
  rw [Leaves, Ensures, bind_apply, pushNumber_listed]
  cases Instruction.ofInt? n with
  | none => rfl
  | some literal => trivial

theorem Leaves.size_bind {f : Nat → StackM α} (h : (f l.length).Leaves l j) :
    (size >>= f).Leaves l j := by
  rw [Leaves, Ensures, bind_apply, size_listed]
  exact h

theorem Leaves.popOperand_bind {f : Instruction → StackM α} (h : (f x).Leaves l j) :
    (popOperand op >>= f).Leaves (x :: l) (j + 1) := by
  rw [Leaves, Ensures, bind_apply, popOperand_cons]
  exact h

theorem Leaves.popNumber_bind_of_none {f : Int → StackM α} (hx : x.value? = none) :
    (popNumber op >>= f).Leaves (x :: l) 1 := by
  rw [Leaves, Ensures, bind_apply, popNumber_of_none hx]
  rfl

theorem Leaves.popNumber_bind_of_some {f : Int → StackM α} {n : Int} (hx : x.value? = some n)
    (h : (f n).Leaves l j) : (popNumber op >>= f).Leaves (x :: l) (j + 1) := by
  rw [Leaves, Ensures, bind_apply, popNumber_of_some hx]
  exact h

/-- An operand that is not a number is the last one read. -/
theorem Leaves.popNumber_bind {f : Int → StackM α} (h : ∀ n, (f n).Leaves l j) :
    (popNumber op >>= f).Leaves (x :: l) ((if x.isNumber then j else 0) + 1) := by
  rw [Instruction.isNumber]
  cases hx : x.value? with
  | none => exact .popNumber_bind_of_none hx
  | some n => exact .popNumber_bind_of_some hx (h n)

/-- What follows a success may fail as well; it goes on from the stack that the success left. -/
theorem Leaves.bind {c : StackM α} {f : α → StackM β} (hc : c.Leaves l j)
    (hf : ∀ a t, c (ofList l) = .ok a t →
      (f a).Ensures t (fun _ _ => True) fun _ u => u = ofList (l.drop j)) :
    (c >>= f).Leaves l j := by
  rw [Leaves, Ensures, bind_apply]
  cases h : c (ofList l) with
  | ok a t => exact hf a t h
  | error failure t => exact hc.of_error h

end StackM

/-! ### The operations -/

namespace Effect

open StackM

variable {op : Opcode} {x y z : Instruction} {l : List Instruction}

theorem unary_leaves {f : Unary} (hop : op.operation? = some (.unary f)) :
    (unary op).Leaves (x :: l) (operandsRead [x.isNumber]) := by
  refine .popNumber_bind fun n => ?_
  rw [hop]
  exact .pushNumber_pure

theorem binary_leaves {f : Binary} (hop : op.operation? = some (.binary f)) :
    (binary op).Leaves (x :: y :: l) (operandsRead [x.isNumber, y.isNumber]) := by
  refine .popNumber_bind fun a => .popNumber_bind fun b => ?_
  rw [hop]
  exact .pushNumber_pure

theorem numEqualVerify_leaves (hop : op.operation? = some .numEqualVerify) :
    (binary op).Leaves (x :: y :: l) (operandsRead [x.isNumber, y.isNumber]) := by
  refine .popNumber_bind fun a => .popNumber_bind fun b => ?_
  rw [hop]
  by_cases hab : a = b
  · simp only [hab, if_true]
    exact .push_pure
  · simp only [hab, if_false]
    exact .throw

theorem within_leaves :
    (within op).Leaves (x :: y :: z :: l) (operandsRead [x.isNumber, y.isNumber, z.isNumber]) :=
  .popNumber_bind fun _ => .popNumber_bind fun _ => .popNumber_bind fun _ => .push_pure

theorem verify_leaves : (verify op).Leaves (x :: l) 1 := by
  refine .popOperand_bind ?_
  split
  · exact .pure
  · exact .throw

theorem conclude_leaves (check : Check) (passed enforced : Bool) :
    (conclude op check passed enforced).Leaves l 0 := by
  rw [conclude]
  split
  · exact .throw
  · exact .push_pure

theorem checkSig_leaves (v : Verifier) (enforced : Bool) :
    (checkSig v op enforced).Leaves (x :: y :: l) 2 :=
  .popOperand_bind (.popOperand_bind (conclude_leaves _ _ _))

/-- A test that is not enforced does not fail. -/
theorem equal_leaves (hop : op.operation? = some (.equal false)) :
    (equal op).Leaves (x :: y :: l) 2 := by
  refine .popOperand_bind (.popOperand_bind ?_)
  simp only [hop]
  exact .push_pure

/-- The flag is pushed before the test is enforced. -/
theorem equal_ensures :
    (equal op).Ensures (ofList (x :: y :: l)) (fun _ _ => True) fun _ t =>
      t = ofList (.int 0 :: l) := by
  rw [Ensures]
  simp only [equal, bind_apply, popOperand_cons, push_listed]
  cases x == y <;> cases op.operation? == some (.equal true) <;> trivial

theorem popPosition_leaves : (popPosition op).Leaves (x :: l) (operandsRead [x.isNumber]) := by
  refine .popNumber_bind fun n => .size_bind ?_
  split
  · exact .pure
  · exact .throw

theorem pick_leaves : (runRearrangement op .pick).Leaves (x :: l) (operandsRead [x.isNumber]) := by
  refine popPosition_leaves.bind fun n t h => ?_
  obtain ⟨hn, rfl⟩ := (popPosition_ensures op x l).of_ok h
  rw [Ensures, bind_apply, operandAt_listed, List.getElem?_eq_getElem hn]
  trivial

theorem roll_leaves : (runRearrangement op .roll).Leaves (x :: l) (operandsRead [x.isNumber]) := by
  refine popPosition_leaves.bind fun n t h => ?_
  obtain ⟨hn, rfl⟩ := (popPosition_ensures op x l).of_ok h
  rw [Ensures, bind_apply, removeAt_listed, List.getElem?_eq_getElem hn]
  trivial

theorem rearrange_leaves {r : Rearrangement} (hop : op.operation? = some (.rearrange r))
    (hl : r.arity ≤ l.length) :
    (rearrange op).Leaves l (operandsRead ((l.take 1).map (·.isNumber))) := by
  cases hr : r.readsPosition with
  | false =>
      obtain ⟨change, m, h⟩ := rearrange_ok hop hr hl
      rw [Leaves, Ensures, h]
      trivial
  | true =>
      rw [rearrange, hop]
      rcases Rearrangement.readsPosition_iff.mp hr with rfl | rfl
      · obtain ⟨x, l, rfl⟩ := List.exists_cons_of_length_pos hl
        exact pick_leaves.bind fun _ _ _ => trivial
      · obtain ⟨x, l, rfl⟩ := List.exists_cons_of_length_pos hl
        exact roll_leaves.bind fun _ _ _ => trivial

/-! ### Multiple checks

An item that is not accepted ends the check, whatever it would have read after it. -/

theorem popAccepted_leaves (accept : Instruction → Bool) (shortfall : Nat → MultisigFault)
    {received n : Nat} (hn : n ≤ l.length) (more : List Bool) :
    (popAccepted op accept shortfall received n).Leaves l
      (operandsRead ((l.take n).map accept ++ more)) := by
  induction n generalizing received l with
  | zero => exact .pure
  | succ n ih =>
      obtain ⟨x, l, rfl⟩ := List.exists_cons_of_length_pos (by omega : 0 < l.length)
      have hl : n ≤ l.length := by simpa using hn
      rw [List.take_succ_cons, List.map_cons, List.cons_append, operandsRead]
      refine .popOperand_bind ?_
      cases hx : accept x with
      | false => exact .throw
      | true => exact (ih hl).bind fun _ _ _ => trivial

theorem countUpTo?_of_le {count : Instruction} {n : Int} {limit : Nat} (h : count.value? = some n)
    (hn : 0 ≤ n ∧ n ≤ limit) : count.countUpTo? limit = some n.toNat := by
  rw [Instruction.countUpTo?, h, Option.filter_some, if_pos (by simpa using hn), Option.map_some]

theorem countUpTo?_of_not_le {count : Instruction} {n : Int} {limit : Nat} (h : count.value? = some n)
    (hn : ¬ (0 ≤ n ∧ n ≤ limit)) : count.countUpTo? limit = none := by
  rw [Instruction.countUpTo?, h, Option.filter_some, if_neg (by simpa using hn), Option.map_none]

/-- How both lists of a multiple check are read: a count, and as many items if it fits. -/
theorem counted_leaves {count : Instruction} {limit : Nat} {accept : Instruction → Bool}
    {shortfall : Int → Nat → MultisigFault} {overrun : Int → Nat → Failure}
    {fits : Int → Nat → Prop} [∀ n size, Decidable (fits n size)]
    (hfits : ∀ n, fits n l.length ↔ 0 ≤ n ∧ n ≤ (min limit l.length : Nat)) (more : List Bool) :
    (popNumber op >>= fun needed => size >>= fun size =>
      if fits needed size then popAccepted op accept (shortfall needed) 0 needed.toNat
      else throw (overrun needed size)).Leaves (count :: l)
      (operandsRead (countedAcceptance accept limit (count :: l) ++ more)) := by
  rw [countedAcceptance]
  cases hcount : count.value? with
  | none =>
      rw [Instruction.countUpTo?, hcount]
      exact .popNumber_bind_of_none hcount
  | some n =>
      by_cases hn : 0 ≤ n ∧ n ≤ (min limit l.length : Nat)
      · rw [countUpTo?_of_le hcount hn, Option.elim_some, List.cons_append, operandsRead, if_pos rfl]
        refine .popNumber_bind_of_some hcount (.size_bind ?_)
        rw [if_pos ((hfits n).mpr hn)]
        exact popAccepted_leaves accept _ (by omega) more
      · rw [countUpTo?_of_not_le hcount hn]
        refine .popNumber_bind_of_some hcount (.size_bind ?_)
        rw [if_neg fun h => hn ((hfits n).mp h)]
        exact .throw

theorem popPubkeys_leaves (v : Verifier) :
    (popPubkeys v op).Leaves (x :: l) (operandsRead (multisigAcceptance v (x :: l))) := by
  refine counted_leaves (fun n => ?_) _
  rw [List.length_cons]
  omega

theorem popSignatures_leaves (v : Verifier) (pubkeys : Nat) :
    (popSignatures v op pubkeys).Leaves l
      (operandsRead (countedAcceptance v.isSignature pubkeys l)) := by
  refine .size_bind ?_
  cases l with
  | nil =>
      rw [Leaves, List.drop_nil]
      rfl
  | cons count l =>
      rw [← List.append_nil (countedAcceptance _ _ _)]
      refine counted_leaves (fun n => ?_) []
      omega

theorem countedAcceptance_append {accept : Instruction → Bool} {limit : Nat} {count : Instruction}
    {items : List Instruction} (hcount : count.value? = some (items.length : Int))
    (hlimit : items.length ≤ limit) (haccept : ∀ item ∈ items, accept item = true)
    (rest : List Instruction) :
    countedAcceptance accept limit (count :: (items ++ rest)) =
      List.replicate (items.length + 1) true := by
  have hle : (0 : Int) ≤ items.length ∧
      (items.length : Int) ≤ (min limit (items ++ rest).length : Nat) := by
    rw [List.length_append]
    omega
  have hmap : items.map accept = List.replicate items.length true := by
    rw [List.map_congr_left haccept, List.map_const']
  rw [countedAcceptance, countUpTo?_of_le hcount hle, Option.elim_some, Int.toNat_natCast,
    List.take_left, hmap, List.replicate_succ]

/-- With all keys accepted, the signatures are what the rest of the check is about. -/
theorem multisigAcceptance_append {v : Verifier} {count : Instruction} {pubkeys : List Instruction}
    (hcount : count.value? = some (pubkeys.length : Int))
    (hpubkeys : ∀ key ∈ pubkeys, v.isPubkey key = true) (rest : List Instruction) :
    multisigAcceptance v (count :: (pubkeys ++ rest)) =
      List.replicate (pubkeys.length + 1) true ++
        countedAcceptance v.isSignature pubkeys.length rest := by
  have hlimit : pubkeys.length ≤ (count :: (pubkeys ++ rest)).length := by
    rw [List.length_cons, List.length_append]
    omega
  rw [multisigAcceptance, countedAcceptance_append hcount hlimit hpubkeys rest]
  simp

theorem popSignatures_bind_leaves (v : Verifier) (pubkeys : Nat) {f : List Instruction → StackM Report}
    (hf : ∀ signatures m, (f signatures).Leaves m 0) :
    (popSignatures v op pubkeys >>= f).Leaves l
      (operandsRead (countedAcceptance v.isSignature pubkeys l)) := by
  refine (popSignatures_leaves v pubkeys).bind fun signatures t h => ?_
  obtain ⟨count, rest, rfl, rfl, hcount, hsignatures, hle⟩ :=
    (popSignatures_ensures v op pubkeys l).of_ok h
  rw [countedAcceptance_append hcount hle hsignatures, operandsRead_replicate, List.drop_succ_cons,
    List.drop_left]
  exact hf signatures rest

theorem checkMultisig_leaves (v : Verifier) (enforced : Bool) :
    (checkMultisig v op enforced).Leaves (x :: l)
      (operandsRead (multisigAcceptance v (x :: l))) := by
  refine (popPubkeys_leaves v).bind fun pubkeys t h => ?_
  obtain ⟨count, rest, hl, rfl, hcount, hpubkeys⟩ := (popPubkeys_ensures v op (x :: l)).of_ok h
  rw [hl, multisigAcceptance_append hcount hpubkeys, operandsRead_replicate_append,
    ← List.drop_drop, List.drop_succ_cons, List.drop_left]
  exact popSignatures_bind_leaves v pubkeys.length fun _ _ => conclude_leaves _ _ _

end Effect

/-- An operation that fails has read its operands up to and including the first that is not accepted. Only an equality test that is enforced does more. -/
theorem Family.run_leaves (v : Verifier) {op : Opcode} {o : Operation} {l : List Instruction}
    (hop : op.operation? = some o) (hequal : o ≠ .equal true) (hl : o.arity ≤ l.length) :
    (o.family.run v op).Leaves l (operandsRead (o.acceptance v l)) := by
  cases o with
  | unary f =>
      obtain ⟨x, l, rfl⟩ := List.exists_cons_of_length_pos hl
      exact Effect.unary_leaves hop
  | binary f =>
      obtain ⟨x, y, l, rfl⟩ := exists_cons_cons hl
      exact Effect.binary_leaves hop
  | numEqualVerify =>
      obtain ⟨x, y, l, rfl⟩ := exists_cons_cons hl
      exact Effect.numEqualVerify_leaves hop
  | within =>
      obtain ⟨x, l, rfl⟩ := List.exists_cons_of_length_pos (Nat.lt_of_lt_of_le (by decide) hl)
      obtain ⟨y, z, l, rfl⟩ := exists_cons_cons (Nat.le_of_succ_le_succ hl)
      exact Effect.within_leaves
  | rearrange r => exact Effect.rearrange_leaves hop hl
  | equal enforced =>
      obtain ⟨x, y, l, rfl⟩ := exists_cons_cons hl
      cases enforced with
      | true => exact absurd rfl hequal
      | false => exact Effect.equal_leaves hop
  | verify =>
      obtain ⟨x, l, rfl⟩ := List.exists_cons_of_length_pos hl
      exact Effect.verify_leaves
  | checkSig enforced =>
      obtain ⟨x, y, l, rfl⟩ := exists_cons_cons hl
      change (Effect.checkSignatures v op).Leaves _ _
      rw [Effect.checkSignatures, hop]
      exact Effect.checkSig_leaves v enforced
  | checkMultisig enforced =>
      obtain ⟨x, l, rfl⟩ := List.exists_cons_of_length_pos hl
      change (Effect.checkSignatures v op).Leaves _ _
      rw [Effect.checkSignatures, hop]
      exact Effect.checkMultisig_leaves v enforced

/-! ### Opcodes -/

/-- The two checks before an operation, of which one is not passed. -/
def Opcode.Refused (op : Opcode) (s : List Instruction) : Prop :=
  op.disabled = true ∨ s.length < op.argCount

/-- The operands that an opcode reads before it can fail, top first, each with whether it is accepted. -/
def Opcode.acceptance (v : Verifier) : Opcode → List Instruction → List Bool
  | .add1, l | .sub1, l | .negate, l | .abs, l | .not, l | .notEqual0, l | .pick, l | .roll, l =>
    (l.take 1).map (·.isNumber)
  | .add, l | .sub, l | .boolAnd, l | .boolOr, l | .numEqual, l | .numEqualVerify, l
  | .numNotEqual, l | .lessThan, l | .greaterThan, l | .lessThanOrEqual, l
  | .greaterThanOrEqual, l | .min, l | .max, l => (l.take 2).map (·.isNumber)
  | .within, l => (l.take 3).map (·.isNumber)
  | .verify, l => (l.take 1).map fun _ => true
  | .checkSigVerify, l => (l.take 2).map fun _ => true
  | .checkMultisig, l | .checkMultisigVerify, l => multisigAcceptance v l
  | _, _ => []

/-- How many operands an opcode can have read when it fails, if it can fail at all. -/
def Opcode.mayStopAfter : Opcode → Nat → Prop
  | .add1, j | .sub1, j | .negate, j | .abs, j | .not, j | .notEqual0, j | .pick, j | .roll, j
  | .verify, j => j = 1
  | .add, j | .sub, j | .boolAnd, j | .boolOr, j | .numEqual, j | .numEqualVerify, j
  | .numNotEqual, j | .lessThan, j | .greaterThan, j | .lessThanOrEqual, j
  | .greaterThanOrEqual, j | .min, j | .max, j => j = 1 ∨ j = 2
  | .within, j => j = 1 ∨ j = 2 ∨ j = 3
  | .checkSigVerify, j => j = 2
  | .checkMultisig, j | .checkMultisigVerify, j => 1 ≤ j
  | _, _ => False

/-- The same by operations, as the proofs follow them. -/
def Operation.mayStopAfter : Operation → Nat → Prop
  | .unary _, j | .verify, j => j = 1
  | .rearrange r, j => r.readsPosition = true ∧ j = 1
  | .binary _, j | .numEqualVerify, j => j = 1 ∨ j = 2
  | .within, j => j = 1 ∨ j = 2 ∨ j = 3
  | .checkSig enforced, j => enforced = true ∧ j = 2
  | .checkMultisig _, j => 1 ≤ j
  | .equal _, _ => False

/-- What an opcode that fails on the items `s` leaves of them. -/
structure Opcode.Leftover (v : Verifier) (op : Opcode) (s left : List Instruction) : Prop where
  refused : op.Refused s → left = s
  equalVerify : ¬ op.Refused s → op = .equalVerify → left = .int 0 :: s.drop 2
  operands : ¬ op.Refused s → op ≠ .equalVerify → ∃ j,
    j = operandsRead (op.acceptance v s) ∧ op.mayStopAfter j ∧ j ≤ s.length ∧ left = s.drop j
  verdict : op = .checkMultisigVerify → ∀ o : MultisigOperands v, s = o.stack →
    o.passes = false ∧
    operandsRead (multisigAcceptance v s) = o.pubkeys.length + o.signatures.length + 2 ∧
    left = o.rest
  suffix : op ≠ .equalVerify → left <:+ s

/-- The tables by operations are those by opcodes, where there is a row. -/
theorem Opcode.mayStopAfter_of_operation? {op : Opcode} {o : Operation} {j : Nat}
    (hop : op.operation? = some o) (h : o.mayStopAfter j) :
    op.mayStopAfter j ∧ ∀ v s, op.acceptance v s = o.acceptance v s := by
  cases op <;> cases hop
  -- These cannot fail once they have their operands, or fail in a way of their own.
  case equal | equalVerify => cases h
  case depth | dup | drop | drop2 | dup2 | over2 | rot2 | swap2 | dup3 | ifDup | nip | «over» | rot | swap
      | tuck | checkSig => cases h.1
  case pick | roll | checkSigVerify => exact ⟨h.2, fun _ _ => rfl⟩
  all_goals exact ⟨h, fun _ _ => rfl⟩

theorem one_le_operandsRead {l : List Bool} (h : l ≠ []) : 1 ≤ operandsRead l := by
  obtain ⟨accepted, rest, rfl⟩ := List.exists_cons_of_ne_nil h
  exact Nat.le_add_left 1 _

theorem operandsRead_take_bounds (accept : Instruction → Bool) {n : Nat} {l : List Instruction}
    (hn : 0 < n) (hl : n ≤ l.length) :
    1 ≤ operandsRead ((l.take n).map accept) ∧ operandsRead ((l.take n).map accept) ≤ n := by
  have hlength : ((l.take n).map accept).length = n := by
    rw [List.length_map, List.length_take, Nat.min_eq_left hl]
  have hne : (l.take n).map accept ≠ [] := List.ne_nil_of_length_pos (by omega)
  have hle := operandsRead_le_length ((l.take n).map accept)
  exact ⟨one_le_operandsRead hne, by omega⟩

theorem length_countedAcceptance_le (accept : Instruction → Bool) (limit : Nat)
    (l : List Instruction) : (countedAcceptance accept limit l).length ≤ l.length := by
  cases l with
  | nil => exact Nat.le_refl 0
  | cons count l =>
      rw [countedAcceptance]
      cases count.countUpTo? (min limit l.length) with
      | none => exact Nat.succ_le_succ (Nat.zero_le _)
      | some n =>
          rw [Option.elim_some, List.length_cons, List.length_map, List.length_cons]
          exact Nat.succ_le_succ (List.length_take_le' n l)

theorem Operation.length_acceptance_le (v : Verifier) (o : Operation) (l : List Instruction) :
    (o.acceptance v l).length ≤ l.length := by
  cases o with
  | checkMultisig enforced =>
      have hpubkeys := length_countedAcceptance_le v.isPubkey l.length l
      have hsignatures := length_countedAcceptance_le v.isSignature
        ((countedAcceptance v.isPubkey l.length l).length - 1)
        (l.drop (countedAcceptance v.isPubkey l.length l).length)
      rw [List.length_drop] at hsignatures
      rw [acceptance, multisigAcceptance, List.length_append]
      omega
  | _ =>
      rw [acceptance, List.length_map]
      exact List.length_take_le' _ l

theorem MultisigOperands.operandsRead_acceptance {v : Verifier} (o : MultisigOperands v) :
    operandsRead (multisigAcceptance v o.stack) = o.pubkeys.length + o.signatures.length + 2 := by
  rw [stack, Effect.multisigAcceptance_append o.pubkeyCount_eq o.isPubkey_of_mem,
    Effect.countedAcceptance_append o.signatureCount_eq o.length_le o.isSignature_of_mem,
    operandsRead_replicate_append, operandsRead_replicate]
  omega

section

variable {v : Verifier} {op : Opcode} {o : Operation} {s : List Instruction}

theorem multisigAcceptance_ne_nil (hs : s ≠ []) : multisigAcceptance v s ≠ [] := by
  obtain ⟨count, l, rfl⟩ := List.exists_cons_of_ne_nil hs
  apply List.append_ne_nil_of_left_ne_nil
  rw [countedAcceptance]
  cases count.countUpTo? (min (count :: l).length l.length) <;> exact List.cons_ne_nil _ _

/-- An opcode that fails past the two checks is one that can fail, and stops where it may. -/
theorem Opcode.mayStopAfter_of_execute_error (hop : op.operation? = some o)
    (hequal : o ≠ .equal true) (hsize : op.argCount ≤ (ofList s).size) {failure : Failure}
    {t : Stack} (h : op.execute v (ofList s) = .error failure t) :
    o.mayStopAfter (operandsRead (o.acceptance v s)) := by
  have hs : o.arity ≤ s.length := by
    rwa [argCount_of_operation? hop, Stack.size_ofList] at hsize
  cases o with
  | unary f =>
      have hbounds := operandsRead_take_bounds (·.isNumber) Nat.one_pos hs
      exact Nat.le_antisymm hbounds.2 hbounds.1
  | binary f =>
      have hbounds := operandsRead_take_bounds (·.isNumber) Nat.two_pos hs
      rw [Operation.acceptance, Operation.mayStopAfter]
      omega
  | numEqualVerify =>
      have hbounds := operandsRead_take_bounds (·.isNumber) Nat.two_pos hs
      rw [Operation.acceptance, Operation.mayStopAfter]
      omega
  | within =>
      have hbounds := operandsRead_take_bounds (·.isNumber) (by decide : 0 < 3) hs
      rw [Operation.acceptance, Operation.mayStopAfter]
      omega
  | rearrange r =>
      have hr : r.readsPosition = true := by
        by_contra hr
        obtain ⟨report, u, hok⟩ := execute_rearrangement_ok hop (Bool.eq_false_iff.mpr hr)
          (disabled_of_operation? hop) hsize
        cases hok.symm.trans h
      have hone : 1 ≤ s.length := by
        rcases Rearrangement.readsPosition_iff.mp hr with rfl | rfl <;> exact hs
      have hbounds := operandsRead_take_bounds (·.isNumber) Nat.one_pos hone
      exact ⟨hr, Nat.le_antisymm hbounds.2 hbounds.1⟩
  | equal enforced =>
      cases enforced with
      | true => exact absurd rfl hequal
      | false =>
          obtain rfl : op = .equal := eq_of_operation?_eq hop rfl
          obtain ⟨report, u, hok⟩ := execute_equal_ok hsize
          cases hok.symm.trans h
  | verify =>
      have hbounds := operandsRead_take_bounds (fun _ => true) Nat.one_pos hs
      exact Nat.le_antisymm hbounds.2 hbounds.1
  | checkSig enforced =>
      cases enforced with
      | true =>
          obtain ⟨x, y, l, rfl⟩ := exists_cons_cons hs
          exact ⟨rfl, rfl⟩
      | false =>
          obtain rfl : op = .checkSig := eq_of_operation?_eq hop rfl
          obtain ⟨report, u, hok⟩ := execute_checkSig_ok hsize
          cases hok.symm.trans h
  | checkMultisig enforced =>
      exact one_le_operandsRead (multisigAcceptance_ne_nil (List.ne_nil_of_length_pos hs))

variable {failure : Failure} {t : Stack}

theorem Opcode.eq_of_refused (hrefused : op.Refused s)
    (h : op.execute v (ofList s) = .error failure t) : t = ofList s := by
  cases hdisabled : op.disabled with
  | true =>
      rw [execute_of_disabled hdisabled] at h
      cases h
      rfl
  | false =>
      have hsize : (ofList s).size < op.argCount := by
        rw [Stack.size_ofList]
        exact hrefused.resolve_left (by simp [hdisabled])
      rw [execute_of_size_lt hdisabled hsize] at h
      cases h
      rfl

theorem Opcode.argCount_le_of_not_refused (hrefused : ¬ op.Refused s) :
    op.argCount ≤ (ofList s).size := by
  rw [Stack.size_ofList]
  exact Nat.le_of_not_lt fun hlt => hrefused (.inr hlt)

/-- An opcode without an operation is pushed once it has passed the two checks. -/
theorem Opcode.exists_operation_of_execute_error (hrefused : ¬ op.Refused s)
    (h : op.execute v (ofList s) = .error failure t) :
    ∃ o, op.operation? = some o ∧ o.family.run v op (ofList s) = .error failure t := by
  have hdisabled : op.disabled = false := Bool.eq_false_iff.mpr fun hd => hrefused (.inl hd)
  rw [execute_of_le_size hdisabled (argCount_le_of_not_refused hrefused)] at h
  cases hop : op.operation? with
  | none =>
      rw [family?_of_operation?_none hop] at h
      cases h
  | some o =>
      rw [family?_of_operation? hop] at h
      exact ⟨o, rfl, h⟩

theorem Opcode.exists_operandsRead_of_execute_error (hrefused : ¬ op.Refused s)
    (hequal : op ≠ .equalVerify) (h : op.execute v (ofList s) = .error failure t) :
    ∃ j, j = operandsRead (op.acceptance v s) ∧ op.mayStopAfter j ∧ j ≤ s.length ∧
      t = ofList (s.drop j) := by
  obtain ⟨o, hop, hrun⟩ := exists_operation_of_execute_error hrefused h
  have hsize := argCount_le_of_not_refused hrefused
  have ho : o ≠ .equal true := by
    rintro rfl
    exact hequal (eq_of_operation?_eq hop rfl)
  have hs : o.arity ≤ s.length := by
    rwa [argCount_of_operation? hop, Stack.size_ofList] at hsize
  have hle : operandsRead (o.acceptance v s) ≤ s.length :=
    Nat.le_trans (operandsRead_le_length _) (o.length_acceptance_le v s)
  obtain ⟨hstop, hacceptance⟩ :=
    mayStopAfter_of_operation? hop (mayStopAfter_of_execute_error hop ho hsize h)
  exact ⟨_, congrArg operandsRead (hacceptance v s).symm, hstop, hle,
    (Family.run_leaves v hop ho hs).of_error hrun⟩

theorem Opcode.eq_of_execute_equalVerify (hrefused : ¬ Opcode.equalVerify.Refused s)
    (h : Opcode.equalVerify.execute v (ofList s) = .error failure t) :
    t = ofList (.int 0 :: s.drop 2) := by
  have hsize := argCount_le_of_not_refused hrefused
  rw [execute_of_operation? rfl hsize] at h
  rw [Stack.size_ofList] at hsize
  obtain ⟨x, y, l, rfl⟩ := exists_cons_cons hsize
  exact Effect.equal_ensures.of_error h

theorem Opcode.execute_multisig_verdict (m : MultisigOperands v)
    (h : Opcode.checkMultisigVerify.execute v (ofList m.stack) = .error failure t) :
    m.passes = false ∧ t = ofList m.rest := by
  rw [execute_multisigOperands rfl, Effect.conclude] at h
  cases hpasses : m.passes with
  | true =>
      rw [hpasses] at h
      cases h
  | false =>
      rw [hpasses] at h
      cases h
      exact ⟨rfl, rfl⟩

theorem Opcode.leftover_of_execute_error (h : op.execute v (ofList s) = .error failure t) :
    op.Leftover v s t.toList where
  refused hrefused := by
    rw [eq_of_refused hrefused h, Stack.toList_ofList]
  equalVerify hrefused hop := by
    subst hop
    rw [eq_of_execute_equalVerify hrefused h, Stack.toList_ofList]
  operands hrefused hequal := by
    obtain ⟨j, hj, hstop, hle, rfl⟩ := exists_operandsRead_of_execute_error hrefused hequal h
    exact ⟨j, hj, hstop, hle, Stack.toList_ofList _⟩
  verdict hop m hs := by
    subst hop hs
    obtain ⟨hpasses, rfl⟩ := execute_multisig_verdict m h
    exact ⟨hpasses, m.operandsRead_acceptance, Stack.toList_ofList _⟩
  suffix hequal := by
    by_cases hrefused : op.Refused s
    · have hleft : t.toList = s := by
        rw [eq_of_refused hrefused h, Stack.toList_ofList]
      exact ⟨[], hleft⟩
    · obtain ⟨j, _, _, _, rfl⟩ := exists_operandsRead_of_execute_error hrefused hequal h
      rw [Stack.toList_ofList]
      exact List.drop_suffix j s

end

/-! ### Runs -/

/-- **What a failed step leaves.** A failed step comes after another one, and the next instruction there is an opcode. If it was refused, the stack is as before. If not, the operands are gone that were read up to and including the one at which the opcode stopped, and all other items are where they were; only `OP_EQUALVERIFY` adds one, the flag it pushed. -/
theorem failed_step_leftover (v : Verifier) (script : List Instruction) (k : Nat) (after : Step)
    (hafter : (simulate v script).steps[k]? = some after) (hfailed : after.failed = true) :
    ∃ before op, 0 < k ∧ (simulate v script).steps[k - 1]? = some before ∧
      before.script = .op op :: after.script ∧ op.Leftover v before.stack after.stack := by
  cases k with
  | zero =>
      cases hafter
      cases hfailed
  | succ k =>
      have hk : k < (simulate v script).steps.length := by
        have hlt := (List.getElem?_eq_some_iff.mp hafter).1
        omega
      have hbefore : (simulate v script).steps[k]? = some (simulate v script).steps[k] :=
        List.getElem?_eq_getElem hk
      obtain ⟨i, rest, hscript, rfl⟩ := exists_of_consecutive_steps hbefore hafter
      cases hexecute : i.execute v (ofList (simulate v script).steps[k].stack) with
      | ok report t =>
          rw [hexecute] at hfailed
          cases hfailed
      | error failure t =>
          cases i with
          | int n => cases hexecute
          | marker text => cases hexecute
          | op code =>
              exact ⟨_, code, Nat.succ_pos k, hbefore, hscript,
                Opcode.leftover_of_execute_error hexecute⟩

/-- Three keys are asked for and the second is none: the count and two items are gone, and the third key is left with what was below it. -/
theorem failed_step_leftover_secondKey :
    (simulate .placeholder [.int 8, .marker "PK2", .int 7, .marker "PK1", .int 3,
      .op .checkMultisig]).steps[6]? = some ⟨[], [.marker "PK2", .int 8],
        "Performed CHECKMULTISIG; Not enough pubkeys, needed <3>, received <1>; Checkmultisig failed",
        true, .failed⟩ ∧
    operandsRead (multisigAcceptance .placeholder
      [.int 3, .marker "PK1", .int 7, .marker "PK2", .int 8]) = 3 ∧
    ∃ before op, (simulate .placeholder [.int 8, .marker "PK2", .int 7, .marker "PK1", .int 3,
        .op .checkMultisig]).steps[5]? = some before ∧ before.script = [.op op] ∧
      op.Leftover .placeholder before.stack [.marker "PK2", .int 8] := by
  have h : (simulate .placeholder [.int 8, .marker "PK2", .int 7, .marker "PK1", .int 3,
      .op .checkMultisig]).steps[6]? = some ⟨[], [.marker "PK2", .int 8],
        "Performed CHECKMULTISIG; Not enough pubkeys, needed <3>, received <1>; Checkmultisig failed",
        true, .failed⟩ := by
    decide +kernel
  obtain ⟨before, op, _, hbefore, hscript, hleftover⟩ := failed_step_leftover .placeholder _ 6 _ h rfl
  exact ⟨h, by decide +kernel, before, op, hbefore, hscript, hleftover⟩

end ScriptTrace
