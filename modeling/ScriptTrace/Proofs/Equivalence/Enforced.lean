import Mathlib.Data.List.Basic
import ScriptTrace.Proofs.Equivalence.Arithmetic
import ScriptTrace.Proofs.Multisig.Operands

/-!
# Enforced tests

Four opcodes make a test and end the run if it comes out false. Each is written in its own way: one pushes the flag and fails afterwards, the others fail first and push nothing. What is left of this difference is the stack of the failed step. Copying the flag that a test left and verifying the copy changes nothing if the flag is true, and fails otherwise; so an opcode that enforces a test is equivalent to the test, `OP_DUP` and `OP_VERIFY`.
-/

namespace ScriptTrace

open Stack (ofList)

open StackM

open Trace (stackAfter?)

/-- A true item is on top. -/
def Stack.topTrue (s : Stack) : Bool := s.top?.any (·.truthy)

theorem Stack.topTrue_cons (x : Instruction) (l : List Instruction) :
    (ofList (x :: l)).topTrue = x.truthy := by
  rw [topTrue, top?_ofList]
  rfl

section

variable (v : Verifier)

theorem stackAfter?_verify (x : Instruction) (l : List Instruction) :
    stackAfter? v [.op .verify] (ofList (x :: l)) = if x.truthy then some (ofList l) else none := by
  rw [stackAfter?_operation v rfl]
  change (Effect.verify .verify).stack? (ofList (x :: l)) = _
  rw [Effect.verify, stack?_popOperand_bind]
  cases x.truthy <;> rfl

/-- Verifying a copy of the top leaves the stack alone, if it leaves one. -/
theorem stackAfter?_dup_verify (s : Stack) :
    stackAfter? v [.op .dup, .op .verify] s = Option.guard Stack.topTrue s := by
  obtain ⟨l, rfl⟩ := s.exists_eq_ofList
  rw [stackAfter?_cons_cons, stackAfter?_onItems? v rfl rfl]
  cases l with
  | nil => rfl
  | cons x l =>
      rw [Rearrangement.onItems?, Option.map_some, Option.bind_some, stackAfter?_verify,
        Option.guard, Stack.topTrue_cons]

/-- An opcode comes out as a test does if the test comes out true, and fails if not. -/
def Opcode.Enforces (op test : Opcode) : Prop :=
  ∀ s, stackAfter? v [.op op] s = (stackAfter? v [.op test] s).filter Stack.topTrue

theorem Opcode.Enforces.equivalent {op test : Opcode} (h : op.Enforces v test) :
    Equivalent v [.op op] [.op test, .op .dup, .op .verify] := by
  intro s
  have hverify : stackAfter? v [.op .dup, .op .verify] = Option.guard Stack.topTrue :=
    funext (stackAfter?_dup_verify v)
  rw [h s, stackAfter?_cons_cons, hverify, Option.bind_guard]

/-! ### The four tests -/

theorem filter_topTrue_ofBool (b : Bool) (l : List Instruction) :
    (some (ofList (.ofBool b :: l))).filter Stack.topTrue =
      if b then some (ofList (.ofBool true :: l)) else none := by
  rw [Option.filter_some, Stack.topTrue_cons, Instruction.truthy_ofBool]
  cases b <;> rfl

theorem numEqualVerify_enforces : Opcode.numEqualVerify.Enforces v .numEqual := by
  intro s
  obtain ⟨l, rfl⟩ := s.exists_eq_ofList
  have htest : ∀ a b, Binary.eval .eq a b = flag (a == b) := fun _ _ => rfl
  rw [stackAfter?_operation v rfl, stackAfter?_binary v rfl]
  change (Effect.binary .numEqualVerify).stack? (ofList l) = _
  rw [Effect.binary]
  rcases l with _ | ⟨x, _ | ⟨y, l⟩⟩
  · rfl
  · rw [stack?_popNumber_bind]
    cases x.value? <;> rfl
  · rw [stack?_popNumber_bind, Binary.onItems?_test htest]
    cases x.value? with
    | none => rfl
    | some a =>
        rw [Option.bind_some, Option.bind_some, stack?_popNumber_bind]
        cases y.value? with
        | none => rfl
        | some b =>
            rw [Option.bind_some, Option.map_some, Option.map_some, filter_topTrue_ofBool]
            by_cases hab : a = b
            · subst hab
              rw [beq_self_eq_true]
              simp [Opcode.operation?, stack?]
            · rw [beq_false_of_ne hab]
              simp [Opcode.operation?, hab, stack?]

theorem stack?_equal (op : Opcode) (x y : Instruction) (l : List Instruction) :
    (Effect.equal op).stack? (ofList (x :: y :: l)) =
      if op.operation? == some (.equal true) && !(x == y) then none
      else some (ofList (.ofBool (x == y) :: l)) := by
  rw [Effect.equal, stack?_popOperand_bind, stack?_popOperand_bind, stack?_push_bind]
  cases op.operation? == some (.equal true) <;> cases x == y <;> rfl

theorem equalVerify_enforces : Opcode.equalVerify.Enforces v .equal := by
  intro s
  obtain ⟨l, rfl⟩ := s.exists_eq_ofList
  rw [stackAfter?_operation v rfl, stackAfter?_operation v rfl]
  change (Effect.equal .equalVerify).stack? (ofList l) =
    ((Effect.equal .equal).stack? (ofList l)).filter Stack.topTrue
  rcases l with _ | ⟨x, _ | ⟨y, l⟩⟩
  · rfl
  · rfl
  · rw [stack?_equal, stack?_equal]
    change _ = (some (ofList (.ofBool (x == y) :: l))).filter Stack.topTrue
    rw [filter_topTrue_ofBool]
    cases x == y <;> rfl

theorem stack?_conclude (op : Opcode) (check : Check) (passed enforced : Bool)
    (l : List Instruction) :
    (Effect.conclude op check passed enforced).stack? (ofList l) =
      if enforced && !passed then none else some (ofList (.ofBool passed :: l)) := by
  cases passed <;> cases enforced <;> simp [Effect.conclude, stack?]

/-- Enforcing a check keeps its outcome if that is true. -/
theorem stack?_conclude_enforced (op test : Opcode) (check other : Check) (passed : Bool)
    (l : List Instruction) :
    (Effect.conclude op check passed true).stack? (ofList l) =
      ((Effect.conclude test other passed false).stack? (ofList l)).filter Stack.topTrue := by
  rw [stack?_conclude, stack?_conclude]
  change _ = (some (ofList (.ofBool passed :: l))).filter Stack.topTrue
  rw [filter_topTrue_ofBool]
  cases passed <;> rfl

theorem checkSigVerify_enforces : Opcode.checkSigVerify.Enforces v .checkSig := by
  intro s
  obtain ⟨l, rfl⟩ := s.exists_eq_ofList
  rw [stackAfter?_operation v rfl, stackAfter?_operation v rfl]
  change (Effect.checkSig v .checkSigVerify true).stack? (ofList l) =
    ((Effect.checkSig v .checkSig false).stack? (ofList l)).filter Stack.topTrue
  rw [Effect.checkSig, Effect.checkSig]
  rcases l with _ | ⟨x, _ | ⟨y, l⟩⟩
  · rfl
  · rfl
  · simp only [stack?_popOperand_bind]
    exact stack?_conclude_enforced _ _ _ _ _ l

theorem checkMultisigVerify_enforces : Opcode.checkMultisigVerify.Enforces v .checkMultisig := by
  intro s
  obtain ⟨l, rfl⟩ := s.exists_eq_ofList
  rw [stackAfter?_operation v rfl, stackAfter?_operation v rfl]
  change (Effect.checkMultisig v .checkMultisigVerify true).stack? (ofList l) =
    ((Effect.checkMultisig v .checkMultisig false).stack? (ofList l)).filter Stack.topTrue
  by_cases hl : ∃ o : MultisigOperands v, l = o.stack
  · obtain ⟨o, rfl⟩ := hl
    rw [stack?_congr (Effect.checkMultisig_stack v .checkMultisigVerify true o),
      stack?_congr (Effect.checkMultisig_stack v .checkMultisig false o)]
    exact stack?_conclude_enforced _ _ _ _ _ o.rest
  · obtain ⟨failure, t, herror, _⟩ :=
      (Effect.exists_operands_or_error v .checkMultisigVerify true l).resolve_left hl
    obtain ⟨other, u, hother, _⟩ :=
      (Effect.exists_operands_or_error v .checkMultisig false l).resolve_left hl
    rw [stack?_of_error herror, stack?_of_error hother]
    rfl

/-- The test that an opcode enforces. -/
def Opcode.enforcedTest? : Opcode → Option Opcode
  | .numEqualVerify => some .numEqual
  | .equalVerify => some .equal
  | .checkSigVerify => some .checkSig
  | .checkMultisigVerify => some .checkMultisig
  | _ => none

theorem Opcode.enforces_of_enforcedTest? {op test : Opcode} (h : op.enforcedTest? = some test) :
    op.Enforces v test := by
  cases op <;> cases h
  case numEqualVerify => exact numEqualVerify_enforces v
  case equalVerify => exact equalVerify_enforces v
  case checkSigVerify => exact checkSigVerify_enforces v
  case checkMultisigVerify => exact checkMultisigVerify_enforces v

end

/-- **Enforced tests are abbreviations.** Between any two scripts an opcode that enforces a test can be replaced by the test, `OP_DUP` and `OP_VERIFY`: the run fails or not as before, with the same verdict and the same final stack. -/
theorem simulate_enforcedTest_sameOutcome (v : Verifier) (p q : List Instruction) (op test : Opcode)
    (h : op.enforcedTest? = some test) :
    (simulate v (p ++ [.op op] ++ q)).SameOutcome
      (simulate v (p ++ [.op test, .op .dup, .op .verify] ++ q)) :=
  (op.enforces_of_enforcedTest? v h).equivalent.sameOutcome p q

/-- A signature too many: the check is carried out, does not pass, and both runs end there. -/
theorem simulate_checkMultisigVerify_sameOutcome :
    Opcode.checkMultisigVerify.enforcedTest? = some .checkMultisig ∧
    (simulate .placeholder [.marker "SIG1", .marker "SIG2", .int 2, .marker "PK1", .marker "PK3",
      .op .num2, .op .checkMultisigVerify, .int 1]).Fails ∧
    (simulate .placeholder [.marker "SIG1", .marker "SIG2", .int 2, .marker "PK1", .marker "PK3",
      .op .num2, .op .checkMultisigVerify, .int 1]).SameOutcome
      (simulate .placeholder [.marker "SIG1", .marker "SIG2", .int 2, .marker "PK1", .marker "PK3",
        .op .num2, .op .checkMultisig, .op .dup, .op .verify, .int 1]) := by
  refine ⟨rfl, ?_, simulate_enforcedTest_sameOutcome .placeholder
    [.marker "SIG1", .marker "SIG2", .int 2, .marker "PK1", .marker "PK3", .op .num2] [.int 1]
    .checkMultisigVerify .checkMultisig rfl⟩
  rw [simulate_fails_iff]
  decide +kernel

end ScriptTrace
