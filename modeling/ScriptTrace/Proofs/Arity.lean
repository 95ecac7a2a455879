import Mathlib.Data.List.Basic
import ScriptTrace.Proofs.Effect.Listed
import ScriptTrace.Proofs.Effect.Outcome
import ScriptTrace.Proofs.Trace.Run

/-!
# The arity table

The catalog says of every opcode how many items it needs, and nothing is executed on fewer. The operations were not written with the catalog at hand, so this file compares the two. On a stack with enough items no operation misses an operand, and on a smaller one every operation fails; hence the numbers in the catalog are the least ones that are safe. With enough items, moreover, an opcode can only fail if it reads numbers, enforces a test, or checks several signatures.
-/

namespace ScriptTrace

open Stack (ofList)

/-- The failures that the checks before an operation are there to rule out: a missing operand, and an opcode in the hands of another family. -/
def Failure.ruledOut : Failure → Bool
  | .stackUnderflow _ | .wrongFamily _ _ => true
  | _ => false

/-- How many items an operation takes or looks at, before any that it counts off. -/
def Operation.arity : Operation → Nat
  | .unary _ | .verify | .checkMultisig _ => 1
  | .binary _ | .numEqualVerify | .equal _ | .checkSig _ => 2
  | .within => 3
  | .rearrange r => r.arity

theorem Opcode.argCount_of_operation? {op : Opcode} {o : Operation} (h : op.operation? = some o) :
    op.argCount = o.arity := by
  cases op <;> cases h <;> rfl

/-! ### Rules for safety

A computation is followed on a listed stack; each rule does one of its lines. -/

namespace StackM

variable {α β : Type} {op : Opcode} {x : Instruction} {l : List Instruction} {s : Stack}

/-- The computation succeeds, or fails for a reason of its own. -/
def Safe (x : StackM α) (s : Stack) : Prop :=
  x.Ensures s (fun _ _ => True) fun failure _ => failure.ruledOut = false

theorem Safe.pure {a : α} : (Pure.pure a : StackM α).Safe s := trivial

theorem Safe.throw {failure : Failure} (h : failure.ruledOut = false) :
    (MonadExcept.throw failure : StackM α).Safe s := h

theorem Safe.bind {x : StackM α} {f : α → StackM β} (hx : x.Safe s) (hf : ∀ a t, (f a).Safe t) :
    (x >>= f).Safe s :=
  Ensures.bind hx fun a t _ => hf a t

theorem Safe.size_bind {f : Nat → StackM α} (h : (f l.length).Safe (ofList l)) :
    (size >>= f).Safe (ofList l) := by
  rw [Safe, Ensures, bind_apply, size_listed]
  exact h

theorem Safe.push_bind {f : Unit → StackM α} (h : ∀ t, (f ()).Safe t) : (push x >>= f).Safe s :=
  h (s.push x)

theorem Safe.popOperand_bind {f : Instruction → StackM α} (h : (f x).Safe (ofList l)) :
    (popOperand op >>= f).Safe (ofList (x :: l)) := by
  rw [Safe, Ensures, bind_apply, popOperand_cons]
  exact h

theorem Safe.popNumber_bind {f : Int → StackM α} (h : ∀ n, (f n).Safe (ofList l)) :
    (popNumber op >>= f).Safe (ofList (x :: l)) := by
  rw [Safe, Ensures, bind_apply, popNumber_cons]
  cases x.number? with
  | none => rfl
  | some n => exact h n.toInt

theorem Safe.pushNumber_bind {n : Int} {f : Unit → StackM α} (h : ∀ t, (f ()).Safe t) :
    (pushNumber op n >>= f).Safe s := by
  refine .bind ?_ fun _ t => h t
  rw [pushNumber]
  cases Instruction.ofInt? n with
  | none => exact .throw rfl
  | some literal => exact trivial

end StackM

/-! ### Enough items -/

namespace Effect

open StackM

variable {op : Opcode} {x y z : Instruction} {l : List Instruction}

theorem unary_safe {f : Unary} (hop : op.operation? = some (.unary f)) :
    (unary op).Safe (ofList (x :: l)) := by
  refine .popNumber_bind fun n => ?_
  rw [hop]
  exact .pushNumber_bind fun _ => .pure

theorem binary_safe {f : Binary} (hop : op.operation? = some (.binary f)) :
    (binary op).Safe (ofList (x :: y :: l)) := by
  refine .popNumber_bind fun a => .popNumber_bind fun b => ?_
  rw [hop]
  exact .pushNumber_bind fun _ => .pure

theorem numEqualVerify_safe (hop : op.operation? = some .numEqualVerify) :
    (binary op).Safe (ofList (x :: y :: l)) := by
  refine .popNumber_bind fun a => .popNumber_bind fun b => ?_
  rw [hop]
  by_cases hab : a = b
  · simp only [hab, if_true]
    exact .push_bind fun _ => .pure
  · simp only [hab, if_false]
    exact .throw rfl

theorem within_safe : (within op).Safe (ofList (x :: y :: z :: l)) :=
  .popNumber_bind fun _ => .popNumber_bind fun _ => .popNumber_bind fun _ => .push_bind fun _ => .pure

theorem equal_safe : (equal op).Safe (ofList (x :: y :: l)) := by
  refine .popOperand_bind (.popOperand_bind (.push_bind fun t => ?_))
  dsimp only
  split
  · exact .throw rfl
  · exact .pure

theorem verify_safe : (verify op).Safe (ofList (x :: l)) := by
  refine .popOperand_bind ?_
  split
  · exact .pure
  · exact .throw rfl

theorem conclude_safe (check : Check) (passed enforced : Bool) (s : Stack) :
    (conclude op check passed enforced).Safe s := by
  rw [conclude]
  split
  · exact .throw rfl
  · exact .push_bind fun _ => .pure

theorem checkSig_safe (v : Verifier) (enforced : Bool) :
    (checkSig v op enforced).Safe (ofList (x :: y :: l)) :=
  .popOperand_bind (.popOperand_bind (conclude_safe _ _ _ _))

/-- Items are counted off only after it is checked that there are as many. -/
theorem popAccepted_safe (accept : Instruction → Bool) (shortfall : Nat → MultisigFault)
    {count : Nat} (h : count ≤ l.length) :
    (popAccepted op accept shortfall 0 count).Safe (ofList l) := by
  rw [Safe, Ensures, popAccepted_listed op accept shortfall h]
  cases (l.take count).findIdx? (fun x => !accept x) <;> trivial

theorem popPubkeys_safe (v : Verifier) : (popPubkeys v op).Safe (ofList (x :: l)) := by
  refine .popNumber_bind fun needed => .size_bind ?_
  by_cases hneeded : 0 ≤ needed ∧ needed ≤ l.length
  · rw [if_pos hneeded]
    exact popAccepted_safe _ _ (by omega)
  · rw [if_neg hneeded]
    exact .throw rfl

theorem popSignatures_safe (v : Verifier) (pubkeys : Nat) (s : Stack) :
    (popSignatures v op pubkeys).Safe s := by
  obtain ⟨l, rfl⟩ := s.exists_eq_ofList
  refine .size_bind ?_
  cases l with
  | nil => exact .throw rfl
  | cons x l =>
      refine .popNumber_bind fun needed => .size_bind ?_
      by_cases hneeded : 0 ≤ needed ∧ needed ≤ pubkeys ∧ needed ≤ l.length
      · rw [if_pos hneeded]
        exact popAccepted_safe _ _ (by omega)
      · rw [if_neg hneeded]
        exact .throw rfl

theorem checkMultisig_safe (v : Verifier) (enforced : Bool) :
    (checkMultisig v op enforced).Safe (ofList (x :: l)) :=
  .bind (popPubkeys_safe v) fun _ _ => .bind (popSignatures_safe v _ _) fun _ t =>
    conclude_safe _ _ _ t

/-- A position that is accepted is one on the rest of the stack, so it can be looked at and emptied. -/
theorem popPosition_ensures (op : Opcode) (x : Instruction) (l : List Instruction) :
    (popPosition op).Ensures (ofList (x :: l)) (fun n t => n < l.length ∧ t = ofList l)
      fun failure _ => failure.ruledOut = false := by
  rw [Ensures, popPosition_cons]
  cases x.number? with
  | none => rfl
  | some n =>
      by_cases hn : 0 ≤ n.toInt ∧ n.toInt < l.length
      · simp only [if_pos hn]
        exact ⟨by omega, trivial⟩
      · simp only [if_neg hn]
        rfl

theorem pick_safe : (runRearrangement op .pick).Safe (ofList (x :: l)) := by
  refine (popPosition_ensures op x l).bind fun n t h => ?_
  obtain ⟨hn, rfl⟩ := h
  rw [Ensures, bind_apply, operandAt_listed, List.getElem?_eq_getElem hn]
  trivial

theorem roll_safe : (runRearrangement op .roll).Safe (ofList (x :: l)) := by
  refine (popPosition_ensures op x l).bind fun n t h => ?_
  obtain ⟨hn, rfl⟩ := h
  rw [Ensures, bind_apply, removeAt_listed, List.getElem?_eq_getElem hn]
  trivial

theorem rearrange_ok {r : Rearrangement} (hop : op.operation? = some (.rearrange r))
    (hr : r.readsPosition = false) (hl : r.arity ≤ l.length) :
    ∃ change m, rearrange op (ofList l) = .ok (.rearranged op change) (ofList m) := by
  obtain ⟨⟨change, m⟩, h⟩ := Option.isSome_iff_exists.mp (Rearrangement.isSome_onItems? hr hl)
  refine ⟨change, m, ?_⟩
  simp [rearrange, hop, runRearrangement_of_onItems? op h]

theorem rearrange_safe {r : Rearrangement} (hop : op.operation? = some (.rearrange r))
    (hl : r.arity ≤ l.length) : (rearrange op).Safe (ofList l) := by
  cases hr : r.readsPosition with
  | false =>
      obtain ⟨change, m, h⟩ := rearrange_ok hop hr hl
      rw [Safe, Ensures, h]
      trivial
  | true =>
      rcases Rearrangement.readsPosition_iff.mp hr with rfl | rfl
      · obtain ⟨x, l, rfl⟩ := List.exists_cons_of_length_pos hl
        rw [rearrange, hop]
        exact pick_safe.bind fun _ _ => .pure
      · obtain ⟨x, l, rfl⟩ := List.exists_cons_of_length_pos hl
        rw [rearrange, hop]
        exact roll_safe.bind fun _ _ => .pure

end Effect

theorem exists_cons_cons {l : List Instruction} (h : 2 ≤ l.length) :
    ∃ x y m, l = x :: y :: m := by
  obtain ⟨x, l, rfl⟩ := List.exists_cons_of_length_pos (by omega : 0 < l.length)
  obtain ⟨y, l, rfl⟩ := List.exists_cons_of_length_pos (Nat.lt_of_succ_lt_succ h)
  exact ⟨x, y, l, rfl⟩

theorem Family.run_safe (v : Verifier) {op : Opcode} {o : Operation} {l : List Instruction}
    (hop : op.operation? = some o) (hl : o.arity ≤ l.length) :
    (o.family.run v op).Safe (ofList l) := by
  cases o with
  | unary f =>
      obtain ⟨x, l, rfl⟩ := List.exists_cons_of_length_pos hl
      exact Effect.unary_safe hop
  | binary f =>
      obtain ⟨x, y, l, rfl⟩ := exists_cons_cons hl
      exact Effect.binary_safe hop
  | numEqualVerify =>
      obtain ⟨x, y, l, rfl⟩ := exists_cons_cons hl
      exact Effect.numEqualVerify_safe hop
  | within =>
      obtain ⟨x, l, rfl⟩ := List.exists_cons_of_length_pos (Nat.lt_of_lt_of_le (by decide) hl)
      obtain ⟨y, z, l, rfl⟩ := exists_cons_cons (Nat.le_of_succ_le_succ hl)
      exact Effect.within_safe
  | rearrange r => exact Effect.rearrange_safe hop hl
  | equal enforced =>
      obtain ⟨x, y, l, rfl⟩ := exists_cons_cons hl
      exact Effect.equal_safe
  | verify =>
      obtain ⟨x, l, rfl⟩ := List.exists_cons_of_length_pos hl
      exact Effect.verify_safe
  | checkSig enforced =>
      obtain ⟨x, y, l, rfl⟩ := exists_cons_cons hl
      change (Effect.checkSignatures v op).Safe _
      rw [Effect.checkSignatures, hop]
      exact Effect.checkSig_safe v enforced
  | checkMultisig enforced =>
      obtain ⟨x, l, rfl⟩ := List.exists_cons_of_length_pos hl
      change (Effect.checkSignatures v op).Safe _
      rw [Effect.checkSignatures, hop]
      exact Effect.checkMultisig_safe v enforced

/-- The two checks before an operation leave nothing to be ruled out. -/
theorem Instruction.execute_safe (v : Verifier) (i : Instruction) (s : Stack) :
    (i.execute v).Safe s := by
  cases i with
  | int n => trivial
  | marker text => trivial
  | op code =>
      change (code.execute v).Safe s
      rw [StackM.Safe, StackM.Ensures]
      rcases code.execute_cases v s with h | h | h | ⟨o, hop, hsize, h⟩
      · rw [h]
        rfl
      · rw [h]
        rfl
      · rw [h]
        trivial
      · obtain ⟨l, rfl⟩ := s.exists_eq_ofList
        rw [Opcode.argCount_of_operation? hop, Stack.size_ofList] at hsize
        rw [h]
        exact Family.run_safe v hop hsize

/-! ### Too few items -/

/-- The families that take numbers off the stack before anything else. -/
def Family.isArithmetic : Family → Bool
  | .unaryArithmetic | .binaryArithmetic | .within => true
  | _ => false

namespace StackM

variable {α : Type} {op : Opcode} {numbers : Bool} {x : Instruction} {l : List Instruction}

/-- The computation fails: an operand is missing or, where it takes `numbers`, one is none. -/
def Starved (op : Opcode) (numbers : Bool) (x : StackM α) (l : List Instruction) : Prop :=
  x.Ensures (ofList l) (fun _ _ => False) fun failure _ =>
    failure = .stackUnderflow op ∨
      numbers = true ∧ ∃ item ∈ l, item.number? = none ∧ failure = .notNumeric op item

theorem Starved.exists_error {x : StackM α} (h : x.Starved op numbers l) :
    ∃ failure t, x (ofList l) = .error failure t ∧ (failure = .stackUnderflow op ∨
      numbers = true ∧ ∃ item ∈ l, item.number? = none ∧ failure = .notNumeric op item) := by
  cases hx : x (ofList l) with
  | ok a t => exact (h.of_ok hx).elim
  | error failure t => exact ⟨failure, t, rfl, h.of_error hx⟩

theorem Starved.popOperand_nil {f : Instruction → StackM α} :
    (popOperand op >>= f).Starved op numbers [] := .inl rfl

theorem Starved.popOperand_cons {f : Instruction → StackM α} (h : (f x).Starved op false l) :
    (popOperand op >>= f).Starved op false (x :: l) := by
  obtain ⟨failure, t, hf, hfailure⟩ := h.exists_error
  rw [Starved, Ensures, bind_apply, StackM.popOperand_cons]
  dsimp only
  rw [hf]
  rcases hfailure with hfailure | ⟨hnumbers, _⟩
  · exact .inl hfailure
  · cases hnumbers

theorem Starved.popNumber_nil {f : Int → StackM α} :
    (popNumber op >>= f).Starved op numbers [] := .inl rfl

theorem Starved.popNumber_cons {f : Int → StackM α} (h : ∀ n, (f n).Starved op true l) :
    (popNumber op >>= f).Starved op true (x :: l) := by
  rw [Starved, Ensures, bind_apply, StackM.popNumber_cons]
  cases hx : x.number? with
  | none => exact .inr ⟨rfl, x, List.mem_cons_self, hx, rfl⟩
  | some n =>
      obtain ⟨failure, t, hf, hfailure⟩ := (h n.toInt).exists_error
      dsimp only
      rw [hf]
      rcases hfailure with hfailure | ⟨_, item, hitem, hnumber, hfailure⟩
      · exact .inl hfailure
      · exact .inr ⟨rfl, item, List.mem_cons_of_mem x hitem, hnumber, hfailure⟩

end StackM

namespace Effect

open StackM

variable {op : Opcode} {l : List Instruction}

theorem binary_starved (h : l.length < 2) : (binary op).Starved op true l := by
  rcases l with _ | ⟨x, _ | ⟨y, l⟩⟩
  · exact .popNumber_nil
  · exact .popNumber_cons fun _ => .popNumber_nil
  · simp only [List.length_cons] at h
    omega

theorem within_starved (h : l.length < 3) : (within op).Starved op true l := by
  rcases l with _ | ⟨x, _ | ⟨y, _ | ⟨z, l⟩⟩⟩
  · exact .popNumber_nil
  · exact .popNumber_cons fun _ => .popNumber_nil
  · exact .popNumber_cons fun _ => .popNumber_cons fun _ => .popNumber_nil
  · simp only [List.length_cons] at h
    omega

theorem rearrange_starved {r : Rearrangement} (hop : op.operation? = some (.rearrange r))
    (h : l.length < r.arity) : (rearrange op).Starved op false l := by
  obtain ⟨t, ht⟩ := runRearrangement_of_length_lt op h
  simp only [rearrange, hop]
  rw [Starved, Ensures, bind_apply, ht]
  exact .inl rfl

/-- How equality and a single signature check begin. -/
theorem popTwo_starved {f : Instruction → Instruction → StackM Report} (h : l.length < 2) :
    (popOperand op >>= fun a => popOperand op >>= f a).Starved op false l := by
  rcases l with _ | ⟨x, _ | ⟨y, l⟩⟩
  · exact .popOperand_nil
  · exact .popOperand_cons .popOperand_nil
  · simp only [List.length_cons] at h
    omega

end Effect

theorem Family.run_starved (v : Verifier) {op : Opcode} {o : Operation} {l : List Instruction}
    (hop : op.operation? = some o) (hl : l.length < o.arity) :
    (o.family.run v op).Starved op o.family.isArithmetic l := by
  cases o with
  | unary f =>
      obtain rfl := List.length_eq_zero_iff.mp (Nat.lt_one_iff.mp hl)
      exact .popNumber_nil
  | binary f => exact Effect.binary_starved hl
  | numEqualVerify => exact Effect.binary_starved hl
  | within => exact Effect.within_starved hl
  | rearrange r => exact Effect.rearrange_starved hop hl
  | equal enforced => exact Effect.popTwo_starved hl
  | verify =>
      obtain rfl := List.length_eq_zero_iff.mp (Nat.lt_one_iff.mp hl)
      exact .popOperand_nil
  | checkSig enforced =>
      simp only [Operation.family, Family.run, Effect.checkSignatures, hop]
      exact Effect.popTwo_starved hl
  | checkMultisig enforced =>
      -- The table counts only the number of keys; what that number asks for is checked later.
      obtain rfl := List.length_eq_zero_iff.mp (Nat.lt_one_iff.mp hl)
      simp only [Operation.family, Family.run, Effect.checkSignatures, hop]
      exact .inl rfl

/-! ### Opcodes that cannot fail -/

namespace Opcode

variable {v : Verifier} {op : Opcode} {l : List Instruction}

/-- The stack opcodes are those with a rearrangement, and only two of these read a position. -/
theorem exists_rearrangement (h : op.family? = some .stackManipulation) (hpick : op ≠ .pick)
    (hroll : op ≠ .roll) :
    ∃ r, op.operation? = some (.rearrange r) ∧ r.readsPosition = false := by
  obtain ⟨o, hop, ho⟩ := exists_operation_of_family? h
  cases o with
  | rearrange r =>
      refine ⟨r, hop, Bool.eq_false_iff.mpr fun hr => ?_⟩
      rcases Rearrangement.readsPosition_iff.mp hr with rfl | rfl
      -- Only one opcode has this operation, and it was excluded.
      · exact hpick (eq_of_operation?_eq hop rfl)
      · exact hroll (eq_of_operation?_eq hop rfl)
  | _ => cases ho

theorem execute_rearrangement_ok {r : Rearrangement} (hop : op.operation? = some (.rearrange r))
    (hr : r.readsPosition = false) (hdisabled : op.disabled = false)
    (hl : op.argCount ≤ (ofList l).size) : ∃ report t, op.execute v (ofList l) = .ok report t := by
  rw [execute_of_le_size hdisabled hl]
  rw [argCount_of_operation? hop, Stack.size_ofList] at hl
  obtain ⟨change, m, h⟩ := Effect.rearrange_ok hop hr hl
  rw [family?_of_operation? hop]
  exact ⟨_, _, h⟩

theorem execute_equal_ok (hl : Opcode.equal.argCount ≤ (ofList l).size) :
    ∃ report t, Opcode.equal.execute v (ofList l) = .ok report t := by
  rw [execute_of_le_size rfl hl]
  rw [Stack.size_ofList] at hl
  obtain ⟨x, y, l, rfl⟩ := exists_cons_cons hl
  change ∃ report t, Effect.equal .equal _ = .ok report t
  simp [Effect.equal, operation?]

theorem execute_checkSig_ok (hl : Opcode.checkSig.argCount ≤ (ofList l).size) :
    ∃ report t, Opcode.checkSig.execute v (ofList l) = .ok report t := by
  rw [execute_of_le_size rfl hl]
  rw [Stack.size_ofList] at hl
  obtain ⟨x, y, l, rfl⟩ := exists_cons_cons hl
  change ∃ report t, Effect.checkSig v .checkSig false _ = .ok report t
  simp [Effect.checkSig, Effect.conclude]

end Opcode

/-! ### The table -/

/-- **The arity table is safe and exact.** No step of a run misses an operand or ends up in a wrong family, because no family does with as many items as the catalog asks for; with fewer, every family fails; and with as many, the opcodes listed last do not fail at all. -/
theorem argCount_safe_and_exact (v : Verifier) :
    (∀ (script : List Instruction) (k : Nat) (step : Step),
      (simulate v script).steps[k + 1]? = some step →
      ∃ i s, script[k]? = some i ∧ Trace.stackAfter? v (script.take k) .empty = some s ∧
        step = .ofResult (script.drop (k + 1)) (i.execute v s) ∧
        ∀ failure t, i.execute v s = .error failure t → failure.ruledOut = false) ∧
    (∀ (op : Opcode) (family : Family) (s : Stack),
      op.disabled = false → op.family? = some family → op.argCount ≤ s.size →
      ∀ failure t, family.run v op s = .error failure t → failure.ruledOut = false) ∧
    (∀ (op : Opcode) (family : Family) (s : Stack),
      op.family? = some family → s.size < op.argCount →
      ∃ failure t, family.run v op s = .error failure t ∧
        (failure = .stackUnderflow op ∨ family.isArithmetic = true ∧
          ∃ item ∈ s.toList, item.number? = none ∧ failure = .notNumeric op item)) ∧
    (∀ (op : Opcode) (s : Stack), op.disabled = false → op.argCount ≤ s.size →
      (op.family? = some .stackManipulation ∧ op ≠ .pick ∧ op ≠ .roll) ∨ op = .equal ∨
        op = .checkSig ∨ op.family? = none →
      ∃ report t, op.execute v s = .ok report t) := by
  refine ⟨fun script k step h => ?_, fun op family s _ hfamily hsize failure t h => ?_,
    fun op family s hfamily hsize => ?_, fun op s hdisabled hsize hop => ?_⟩
  · obtain ⟨i, s, hi, hs, hstep⟩ := exists_of_getElem?_steps h
    exact ⟨i, s, hi, hs, hstep, fun failure t h => (i.execute_safe v s).of_error h⟩
  · obtain ⟨o, hop, rfl⟩ := Opcode.exists_operation_of_family? hfamily
    obtain ⟨l, rfl⟩ := s.exists_eq_ofList
    rw [Opcode.argCount_of_operation? hop, Stack.size_ofList] at hsize
    exact (Family.run_safe v hop hsize).of_error h
  · obtain ⟨o, hop, rfl⟩ := Opcode.exists_operation_of_family? hfamily
    obtain ⟨l, rfl⟩ := s.exists_eq_ofList
    rw [Opcode.argCount_of_operation? hop, Stack.size_ofList] at hsize
    rw [Stack.toList_ofList]
    exact (Family.run_starved v hop hsize).exists_error
  · obtain ⟨l, rfl⟩ := s.exists_eq_ofList
    rcases hop with ⟨hfamily, hpick, hroll⟩ | rfl | rfl | hfamily
    · obtain ⟨r, hr, hposition⟩ := Opcode.exists_rearrangement hfamily hpick hroll
      exact Opcode.execute_rearrangement_ok hr hposition hdisabled hsize
    · exact Opcode.execute_equal_ok hsize
    · exact Opcode.execute_checkSig_ok hsize
    · rw [Opcode.execute_of_le_size hdisabled hsize, hfamily]
      exact ⟨_, _, rfl⟩

/-- At the widest entry: six items are enough for `OP_2ROT`, five are not. -/
theorem argCount_rot2_six :
    (∃ report t, Opcode.rot2.execute .placeholder (ofList (List.replicate 6 (.int 0))) =
      .ok report t) ∧
    (∃ failure t, Family.stackManipulation.run .placeholder .rot2
        (ofList (List.replicate 5 (.int 0))) = .error failure t) := by
  obtain ⟨_, _, hshort, henough⟩ := argCount_safe_and_exact .placeholder
  obtain ⟨failure, t, h, _⟩ := hshort .rot2 .stackManipulation (ofList (List.replicate 5 (.int 0)))
    rfl (by decide)
  exact ⟨henough .rot2 _ rfl (by decide) (.inl ⟨rfl, by decide, by decide⟩), failure, t, h⟩

end ScriptTrace
