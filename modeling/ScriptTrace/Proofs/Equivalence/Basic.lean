import Mathlib.Data.List.Basic
import ScriptTrace.Proofs.Arity
import ScriptTrace.Proofs.Effect.Numbers
import ScriptTrace.Proofs.Trace.Run

/-!
# Equivalent scripts

Two scripts are equivalent if they do the same to every stack: both leave the same one, or both fail. The messages on the way, the number of steps and the reason of a failure may differ. One script can then stand for the other between any two scripts without a change to the outcome of the run. To compare two scripts it is enough to look at what the families do, and the two checks before them can be forgotten.
-/

namespace ScriptTrace

open Stack (ofList)

open Trace (stackAfter? stackAfter?_append)

/-- What is left of two traces when their steps are forgotten is the same. -/
structure Trace.SameOutcome (t u : Trace) : Prop where
  fails_iff : t.Fails ↔ u.Fails
  valid_eq : t.valid = u.valid
  finalStack_eq : ¬ t.Fails → ¬ u.Fails → t.finalStack = u.finalStack

/-- The scripts do the same to every stack. -/
def Equivalent (v : Verifier) (a b : List Instruction) : Prop :=
  ∀ s, stackAfter? v a s = stackAfter? v b s

section

variable {v : Verifier} {a b : List Instruction}

theorem sameOutcome_of_stackAfter?_eq (h : stackAfter? v a .empty = stackAfter? v b .empty) :
    (simulate v a).SameOutcome (simulate v b) := by
  cases hb : stackAfter? v b .empty with
  | none =>
      have ha := h.trans hb
      have hfails : (simulate v a).Fails := simulate_fails_iff.mpr ha
      refine ⟨⟨fun _ => simulate_fails_iff.mpr hb, fun _ => hfails⟩, ?_, fun hnot => absurd hfails hnot⟩
      rw [valid_simulate_of_none ha, valid_simulate_of_none hb]
  | some s =>
      have ha := h.trans hb
      refine ⟨?_, ?_, fun _ _ => ?_⟩
      · rw [simulate_fails_iff, simulate_fails_iff, h]
      · rw [valid_simulate_of_some ha, valid_simulate_of_some hb]
      · rw [finalStack_simulate ha, finalStack_simulate hb]

/-- Equivalent scripts can be exchanged in every context. -/
theorem Equivalent.sameOutcome (h : Equivalent v a b) (p q : List Instruction) :
    (simulate v (p ++ a ++ q)).SameOutcome (simulate v (p ++ b ++ q)) := by
  apply sameOutcome_of_stackAfter?_eq
  have hab : stackAfter? v a = stackAfter? v b := funext h
  rw [stackAfter?_append, stackAfter?_append, stackAfter?_append, stackAfter?_append, hab]

end

/-! ### One instruction -/

theorem stackAfter?_int_cons (v : Verifier) (n : Int64) (rest l : List Instruction) :
    stackAfter? v (.int n :: rest) (ofList l) = stackAfter? v rest (ofList (.int n :: l)) := by
  rw [← Stack.push_ofList]
  rfl

theorem stackAfter?_cons_cons (v : Verifier) (i j : Instruction) (rest : List Instruction)
    (s : Stack) :
    stackAfter? v (i :: j :: rest) s = (stackAfter? v [i] s).bind (stackAfter? v (j :: rest)) :=
  stackAfter?_append [i] (j :: rest) s

/-- The stack that a computation leaves, if it succeeds. -/
def StackM.stack? {α : Type} (x : StackM α) (s : Stack) : Option Stack :=
  match x s with
  | .ok _ t => some t
  | .error _ _ => none

section

variable {α : Type} {x : StackM α} {s t : Stack}

theorem StackM.stack?_of_ok {a : α} (h : x s = .ok a t) : x.stack? s = some t := by
  rw [stack?, h]

theorem StackM.stack?_of_error {failure : Failure} (h : x s = .error failure t) :
    x.stack? s = none := by
  rw [stack?, h]

theorem StackM.stack?_congr {y : StackM α} (h : x s = y t) : x.stack? s = y.stack? t := by
  rw [stack?, stack?, h]

end

theorem stackAfter?_singleton (v : Verifier) (i : Instruction) (s : Stack) :
    stackAfter? v [i] s = (i.execute v).stack? s := by
  cases h : i.execute v s with
  | ok report t => rw [Trace.stackAfter?_cons_of_ok h, StackM.stack?_of_ok h, Trace.stackAfter?_nil]
  | error failure t => rw [Trace.stackAfter?_cons_of_error h, StackM.stack?_of_error h]

/-- Whether an opcode succeeds, and what it leaves, is for its family alone to say: on a stack that the catalog finds too small the family fails as well. -/
theorem stackAfter?_operation (v : Verifier) {op : Opcode} {o : Operation}
    (hop : op.operation? = some o) (s : Stack) :
    stackAfter? v [.op op] s = (o.family.run v op).stack? s := by
  rw [stackAfter?_singleton, Instruction.execute_op]
  by_cases hsize : s.size < op.argCount
  · obtain ⟨l, rfl⟩ := s.exists_eq_ofList
    rw [StackM.stack?_of_error (Opcode.execute_of_size_lt (Opcode.disabled_of_operation? hop) hsize)]
    rw [Stack.size_ofList, Opcode.argCount_of_operation? hop] at hsize
    obtain ⟨failure, t, hrun, _⟩ := (Family.run_starved v hop hsize).exists_error
    rw [StackM.stack?_of_error hrun]
  · rw [StackM.stack?, Opcode.execute_of_operation? hop (by omega), StackM.stack?]

/-! ### Operations line by line

What a computation leaves on a listed stack, one rule for each way in which an operation begins. -/

namespace StackM

variable {α : Type} (op : Opcode) (x : Instruction) (l : List Instruction)

theorem stack?_pure (a : α) (s : Stack) : (pure a : StackM α).stack? s = some s := rfl

theorem stack?_push_bind (f : Unit → StackM α) :
    (push x >>= f).stack? (ofList l) = (f ()).stack? (ofList (x :: l)) := by
  rw [stack?, bind_apply, push_listed, stack?]

theorem stack?_popOperand_bind (f : Instruction → StackM α) :
    (popOperand op >>= f).stack? (ofList (x :: l)) = (f x).stack? (ofList l) := by
  rw [stack?, bind_apply, popOperand_cons, stack?]

theorem stack?_popNumber_bind (f : Int → StackM α) :
    (popNumber op >>= f).stack? (ofList (x :: l)) =
      x.value?.bind fun n => (f n).stack? (ofList l) := by
  rw [stack?, bind_apply, popNumber_cons, Instruction.value?]
  cases x.number? with
  | none => rfl
  | some n => rfl

/-- A number is pushed at the end of an operation. -/
theorem stack?_pushNumber_pure (n : Int) (a : α) :
    (pushNumber op n >>= fun _ => pure a).stack? (ofList l) =
      ((Instruction.ofInt? n).map (· :: l)).map ofList := by
  rw [stack?, bind_apply, pushNumber_listed]
  cases Instruction.ofInt? n with
  | none => rfl
  | some y => rfl

end StackM

end ScriptTrace
