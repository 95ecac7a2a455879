import Mathlib.Data.List.Basic
import ScriptTrace.Proofs.Trace.Run

/-!
# Running one script after another

The trace of an appended script begins with the trace of its first part, with the second part still to come at every step. If the first part fails there is nothing more. Otherwise what follows depends on the first part only through the stack it leaves: two scripts that leave the same stack can be exchanged in front of any third.
-/

namespace ScriptTrace

variable {v : Verifier} {a : List Instruction} {s : Stack}

open Trace (stackAfter? stackAfter?_append stepsFrom)

theorem steps_simulate_append (v : Verifier) (a b : List Instruction) :
    (simulate v (a ++ b)).steps = (simulate v a).steps.map (Step.extend b) ++
      ((stackAfter? v a .empty).map (stepsFrom v b)).getD [] := by
  rw [steps_simulate, steps_simulate, Trace.stepsFrom_append]
  rfl

theorem take_steps_simulate_append (v : Verifier) (a b : List Instruction) :
    (simulate v (a ++ b)).steps.take (simulate v a).steps.length =
      (simulate v a).steps.map (Step.extend b) := by
  rw [steps_simulate_append, List.take_left' (List.length_map _)]

theorem drop_steps_simulate_append (v : Verifier) (a b : List Instruction) :
    (simulate v (a ++ b)).steps.drop (simulate v a).steps.length =
      ((stackAfter? v a .empty).map (stepsFrom v b)).getD [] := by
  rw [steps_simulate_append, List.drop_left' (List.length_map _)]

/-- The verdict, too, depends on the first part through its stack alone. -/
theorem valid_simulate_append (b : List Instruction) (h : stackAfter? v a .empty = some s) :
    (simulate v (a ++ b)).valid =
      ((stackAfter? v b s).map fun t => t.toList.head?.any (·.truthy)).getD false := by
  have happend : stackAfter? v (a ++ b) .empty = stackAfter? v b s := by
    rw [stackAfter?_append, h, Option.bind_some]
  cases hb : stackAfter? v b s with
  | none => exact valid_simulate_of_none (happend.trans hb)
  | some t => exact valid_simulate_of_some (happend.trans hb)

/-- A stack is known by the items in the last step. -/
theorem eq_of_finalStack_eq {a' : List Instruction} {s' : Stack}
    (h : stackAfter? v a .empty = some s) (h' : stackAfter? v a' .empty = some s')
    (hfinal : (simulate v a).finalStack = (simulate v a').finalStack) : s = s' := by
  rw [finalStack_simulate h, finalStack_simulate h'] at hfinal
  rw [← Stack.ofList_toList s, hfinal, Stack.ofList_toList]

/-- Two stacks on which the next instruction comes to the same outcome make no difference to what follows. -/
theorem replay_of_execute_eq {a' : List Instruction} {i : Instruction}
    (ha : ¬ (simulate v a).Fails) (ha' : ¬ (simulate v a').Fails)
    (hexecute : i.execute v (Stack.ofList (simulate v a).finalStack) =
      i.execute v (Stack.ofList (simulate v a').finalStack)) (b : List Instruction) :
    (simulate v (a ++ i :: b)).steps.drop (simulate v a).steps.length =
        (simulate v (a' ++ i :: b)).steps.drop (simulate v a').steps.length ∧
      (simulate v (a ++ i :: b)).valid = (simulate v (a' ++ i :: b)).valid := by
  obtain ⟨s, hs⟩ := exists_stackAfter?_of_not_fails ha
  obtain ⟨s', hs'⟩ := exists_stackAfter?_of_not_fails ha'
  rw [finalStack_simulate hs, finalStack_simulate hs', Stack.ofList_toList,
    Stack.ofList_toList] at hexecute
  constructor
  · rw [drop_steps_simulate_append, drop_steps_simulate_append, hs, hs', Option.map_some,
      Option.map_some, stepsFrom, stepsFrom, hexecute]
  · rw [valid_simulate_append _ hs, valid_simulate_append _ hs', stackAfter?, stackAfter?, hexecute]

/-- **Composition and replay.** The steps of the first part are kept, with the second part to come; a failure in it is final; and of a first part that does not fail nothing but its final stack matters to what follows. -/
theorem simulate_append_replay (v : Verifier) :
    (∀ a b : List Instruction,
      (simulate v (a ++ b)).steps.take (simulate v a).steps.length =
        (simulate v a).steps.map (Step.extend b)) ∧
    (∀ a b : List Instruction, (simulate v a).Fails →
      (simulate v (a ++ b)).steps.length = (simulate v a).steps.length ∧
        (simulate v (a ++ b)).valid = false) ∧
    (∀ a a' : List Instruction, ¬ (simulate v a).Fails → ¬ (simulate v a').Fails →
      (simulate v a).finalStack = (simulate v a').finalStack → ∀ b : List Instruction,
        (simulate v (a ++ b)).steps.drop (simulate v a).steps.length =
          (simulate v (a' ++ b)).steps.drop (simulate v a').steps.length ∧
        (simulate v (a ++ b)).valid = (simulate v (a' ++ b)).valid) := by
  refine ⟨take_steps_simulate_append v, fun a b hfails => ?_, fun a a' ha ha' hfinal b => ?_⟩
  · have hnone := simulate_fails_iff.mp hfails
    constructor
    · rw [steps_simulate_append, hnone, Option.map_none, Option.getD_none, List.append_nil,
        List.length_map]
    · apply valid_simulate_of_none
      rw [stackAfter?_append, hnone, Option.bind_none]
  · obtain ⟨s, hs⟩ := exists_stackAfter?_of_not_fails ha
    obtain ⟨s', hs'⟩ := exists_stackAfter?_of_not_fails ha'
    obtain rfl := eq_of_finalStack_eq hs hs' hfinal
    constructor
    · rw [drop_steps_simulate_append, drop_steps_simulate_append, hs, hs']
    · rw [valid_simulate_append b hs, valid_simulate_append b hs']

/-- Three ones can be left in two ways, and then dropping, adding and failing to drop go alike. -/
theorem simulate_append_replay_ones :
    (simulate .placeholder [.int 1, .op .dup, .op .dup]).finalStack = [.int 1, .int 1, .int 1] ∧
    (simulate .placeholder
        [.int 1, .op .dup, .op .dup, .op .drop, .op .add, .op .drop, .op .drop]).steps.drop 4 =
      (simulate .placeholder [.int 1, .int 1, .op .dup2, .op .drop, .op .drop, .op .add, .op .drop,
        .op .drop]).steps.drop 5 ∧
    ((simulate .placeholder [.int 1, .op .dup, .op .dup, .op .drop, .op .add, .op .drop,
        .op .drop]).steps.drop 4).map (fun step => (step.stack, step.failed)) =
      [([.int 1, .int 1], false), ([.int 2], false), ([], false), ([], true)] ∧
    (simulate .placeholder [.int 1, .int 1, .op .dup2, .op .drop, .op .drop, .op .add, .op .drop,
      .op .drop]).valid = false := by
  have hlength : (simulate .placeholder [.int 1, .op .dup, .op .dup]).steps.length = 4 := by
    decide +kernel
  have hlength' :
      (simulate .placeholder [.int 1, .int 1, .op .dup2, .op .drop]).steps.length = 5 := by
    decide +kernel
  obtain ⟨hsteps, hvalid⟩ := (simulate_append_replay .placeholder).2.2 [.int 1, .op .dup, .op .dup]
    [.int 1, .int 1, .op .dup2, .op .drop]
    (by rw [simulate_fails_iff]; decide +kernel) (by rw [simulate_fails_iff]; decide +kernel)
    (by decide +kernel) [.op .drop, .op .add, .op .drop, .op .drop]
  rw [hlength, hlength'] at hsteps
  exact ⟨by decide +kernel, hsteps, by decide +kernel, hvalid.symm.trans (by decide +kernel)⟩

end ScriptTrace
