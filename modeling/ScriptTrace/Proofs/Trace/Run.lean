import Mathlib.Data.List.Forall2
import ScriptTrace.Stack.Lemmas
import ScriptTrace.Trace.Basic

/-!
# Runs of a script

A script takes one stack to another unless one of its instructions fails; `stackAfter?` is that function, and everything the trace records is read off it. The step at a position is the result of the instruction there on the stack left by the instructions before it, and there is no such step if one of those failed. Appending a script to another either continues from the stack the first one left, or changes nothing but the scripts still to come.
-/

namespace ScriptTrace

/-- Lists that a function takes to the same list are those with related elements at each place, if elements are related that it takes to the same. -/
theorem map_eq_map_iff_forall₂ {α β : Type} {f : α → β} {r : α → α → Prop}
    (hf : ∀ {x y}, f x = f y ↔ r x y) {xs ys : List α} :
    xs.map f = ys.map f ↔ List.Forall₂ r xs ys := by
  rw [← List.forall₂_eq_eq_eq, List.forall₂_map_left_iff, List.forall₂_map_right_iff]
  simp only [hf]

/-- The step recorded for the outcome of an instruction. -/
def Step.ofResult (script : List Instruction) : EStateM.Result Failure Stack Report → Step
  | .ok report s => .ofReport script s report
  | .error failure s => .ofFailure script s failure

/-- The same step with more instructions to come. -/
def Step.extend (more : List Instruction) (step : Step) : Step :=
  { step with script := step.script ++ more }

namespace Trace

variable {v : Verifier}

/-- The stack that a script leaves, if none of its instructions fails. -/
def stackAfter? (v : Verifier) : List Instruction → Stack → Option Stack
  | [], s => some s
  | i :: rest, s =>
    match i.execute v s with
    | .ok _ t => stackAfter? v rest t
    | .error _ _ => none

theorem stackAfter?_nil (s : Stack) : stackAfter? v [] s = some s := rfl

theorem stackAfter?_cons_of_ok {i : Instruction} {rest : List Instruction} {s t : Stack}
    {report : Report} (h : i.execute v s = .ok report t) :
    stackAfter? v (i :: rest) s = stackAfter? v rest t := by
  rw [stackAfter?, h]

theorem stackAfter?_cons_of_error {i : Instruction} {rest : List Instruction} {s t : Stack}
    {failure : Failure} (h : i.execute v s = .error failure t) :
    stackAfter? v (i :: rest) s = none := by
  rw [stackAfter?, h]

/-- Induction along a run: a script is at its end, or its first instruction succeeds and the rest runs on from there, or its first instruction fails. -/
@[elab_as_elim] theorem run_induction (v : Verifier) {motive : List Instruction → Stack → Prop}
    (nil : ∀ s, motive [] s)
    (ok : ∀ i rest s report t, i.execute v s = .ok report t → motive rest t → motive (i :: rest) s)
    (error : ∀ i rest s failure t, i.execute v s = .error failure t → motive (i :: rest) s)
    (script : List Instruction) (s : Stack) : motive script s := by
  induction script generalizing s with
  | nil => exact nil s
  | cons i rest ih =>
      cases h : i.execute v s with
      | ok report t => exact ok i rest s report t h (ih t)
      | error failure t => exact error i rest s failure t h

theorem stackAfter?_append (a b : List Instruction) (s : Stack) :
    stackAfter? v (a ++ b) s = (stackAfter? v a s).bind (stackAfter? v b) := by
  induction a, s using run_induction v with
  | nil s => rfl
  | ok i rest s report t h ih =>
      rw [List.cons_append, stackAfter?_cons_of_ok h, stackAfter?_cons_of_ok h, ih]
  | error i rest s failure t h =>
      rw [List.cons_append, stackAfter?_cons_of_error h, stackAfter?_cons_of_error h]
      rfl

/-! ### The recorded steps -/

theorem stepsFrom_nil (s : Stack) : stepsFrom v [] s = [] := rfl

theorem stepsFrom_cons_of_ok {i : Instruction} {rest : List Instruction} {s t : Stack}
    {report : Report} (h : i.execute v s = .ok report t) :
    stepsFrom v (i :: rest) s = .ofReport rest t report :: stepsFrom v rest t := by
  rw [stepsFrom, h]

theorem stepsFrom_cons_of_error {i : Instruction} {rest : List Instruction} {s t : Stack}
    {failure : Failure} (h : i.execute v s = .error failure t) :
    stepsFrom v (i :: rest) s = [.ofFailure rest t failure] := by
  rw [stepsFrom, h]

/-- The step at a position is the outcome of the instruction there on the stack left so far. -/
theorem getElem?_stepsFrom (script : List Instruction) (s : Stack) (k : Nat) :
    (stepsFrom v script s)[k]? = (stackAfter? v (script.take k) s).bind fun t =>
      script[k]?.map fun i => .ofResult (script.drop (k + 1)) (i.execute v t) := by
  induction script, s using run_induction v generalizing k with
  | nil s => cases k <;> simp [stepsFrom_nil, stackAfter?_nil]
  | ok i rest s report t h ih =>
      rw [stepsFrom_cons_of_ok h]
      cases k with
      | zero => simp [stackAfter?_nil, h, Step.ofResult]
      | succ k => simp [stackAfter?_cons_of_ok h, ih]
  | error i rest s failure t h =>
      rw [stepsFrom_cons_of_error h]
      cases k with
      | zero => simp [stackAfter?_nil, h, Step.ofResult]
      | succ k => simp [stackAfter?_cons_of_error h]

/-- A script that is appended to another runs on the stack that one left, if it left one. -/
theorem stepsFrom_append (a b : List Instruction) (s : Stack) :
    stepsFrom v (a ++ b) s = (stepsFrom v a s).map (Step.extend b) ++
      ((stackAfter? v a s).map (stepsFrom v b)).getD [] := by
  induction a, s using run_induction v with
  | nil s => rfl
  | ok i rest s report t h ih =>
      rw [List.cons_append, stepsFrom_cons_of_ok h, stepsFrom_cons_of_ok h, ih,
        stackAfter?_cons_of_ok h]
      rfl
  | error i rest s failure t h =>
      rw [List.cons_append, stepsFrom_cons_of_error h, stepsFrom_cons_of_error h,
        stackAfter?_cons_of_error h]
      rfl

/-! ### How a run ends -/

theorem length_stepsFrom_of_some {script : List Instruction} {s t : Stack}
    (hrun : stackAfter? v script s = some t) : (stepsFrom v script s).length = script.length := by
  induction script, s using run_induction v with
  | nil s => rfl
  | ok i rest s report u h ih =>
      rw [stackAfter?_cons_of_ok h] at hrun
      rw [stepsFrom_cons_of_ok h, List.length_cons, List.length_cons, ih hrun]
  | error i rest s failure u h =>
      rw [stackAfter?_cons_of_error h] at hrun
      cases hrun

/-- A run that does not fail records no failed step, and its last step holds the stack it leaves. -/
theorem stepsFrom_of_some {script : List Instruction} {s t : Stack} {first : Step}
    (hfailed : first.failed = false) (hstack : first.stack = s.toList)
    (hrun : stackAfter? v script s = some t) :
    (∀ step ∈ first :: stepsFrom v script s, step.failed = false) ∧
      ∃ last, (first :: stepsFrom v script s).getLast? = some last ∧ last.stack = t.toList := by
  induction script, s using run_induction v generalizing first with
  | nil s =>
      cases hrun
      simp [stepsFrom_nil, hfailed, hstack]
  | ok i rest s report u h ih =>
      rw [stackAfter?_cons_of_ok h] at hrun
      have hfirst : (Step.ofReport rest u report).failed = false := rfl
      obtain ⟨hnone, last, hlast, hlastStack⟩ := ih hfirst rfl hrun
      rw [stepsFrom_cons_of_ok h]
      refine ⟨?_, last, ?_, hlastStack⟩
      · intro step hstep
        rcases List.mem_cons.mp hstep with rfl | hstep
        · exact hfailed
        · exact hnone step hstep
      · rw [List.getLast?_cons_cons, hlast]
  | error i rest s failure u h =>
      rw [stackAfter?_cons_of_error h] at hrun
      cases hrun

/-- The instruction at position `k` is reached, and fails. Those before it did not. -/
def FailsAt (v : Verifier) (script : List Instruction) (s : Stack) (k : Nat) : Prop :=
  ∃ u i failure t, stackAfter? v (script.take k) s = some u ∧ script[k]? = some i ∧
    i.execute v u = .error failure t

theorem exists_failsAt_of_none {script : List Instruction} {s : Stack}
    (hrun : stackAfter? v script s = none) : ∃ k, FailsAt v script s k := by
  induction script, s using run_induction v with
  | nil s => cases hrun
  | ok i rest s report u h ih =>
      rw [stackAfter?_cons_of_ok h] at hrun
      obtain ⟨k, w, j, failure, t, hw, hj, hfail⟩ := ih hrun
      refine ⟨k + 1, w, j, failure, t, ?_, hj, hfail⟩
      rw [List.take_succ_cons, stackAfter?_cons_of_ok h, hw]
  | error i rest s failure t h => exact ⟨0, s, i, failure, t, rfl, rfl, h⟩

/-- What a run records that fails at a position: a step for each instruction before, and the failed one. -/
theorem FailsAt.stepsFrom_eq {script : List Instruction} {s : Stack} {k : Nat}
    (h : FailsAt v script s k) :
    ∃ before failure t, stepsFrom v script s =
      before ++ [.ofFailure (script.drop (k + 1)) t failure] ∧ before.length = k := by
  obtain ⟨u, i, failure, t, hu, hi, hfail⟩ := h
  have hk : k < script.length := (List.getElem?_eq_some_iff.mp hi).1
  -- The run is that of the part before `k`, which leaves a stack, continued by one failure.
  have hsplit : script = script.take k ++ i :: script.drop (k + 1) := by
    rw [← (List.getElem?_eq_some_iff.mp hi).2, ← List.drop_eq_getElem_cons hk,
      List.take_append_drop]
  have hsteps := stepsFrom_append (v := v) (script.take k) (i :: script.drop (k + 1)) s
  rw [← hsplit, hu, Option.map_some, Option.getD_some, stepsFrom_cons_of_error hfail] at hsteps
  refine ⟨_, failure, t, hsteps, ?_⟩
  rw [List.length_map, length_stepsFrom_of_some hu, List.length_take, Nat.min_eq_left (by omega)]

end Trace

theorem steps_simulate (v : Verifier) (script : List Instruction) :
    (simulate v script).steps = .setup script :: Trace.stepsFrom v script .empty := rfl

theorem getElem?_steps_simulate (v : Verifier) (script : List Instruction) (k : Nat) :
    (simulate v script).steps[k + 1]? = (Trace.stackAfter? v (script.take k) .empty).bind fun s =>
      script[k]?.map fun i => .ofResult (script.drop (k + 1)) (i.execute v s) :=
  Trace.getElem?_stepsFrom script .empty k

/-- Every step after the setup is the outcome of an instruction on the stack left so far. -/
theorem exists_of_getElem?_steps {v : Verifier} {script : List Instruction} {k : Nat} {step : Step}
    (h : (simulate v script).steps[k + 1]? = some step) :
    ∃ i s, script[k]? = some i ∧ Trace.stackAfter? v (script.take k) .empty = some s ∧
      step = .ofResult (script.drop (k + 1)) (i.execute v s) := by
  rw [getElem?_steps_simulate, Option.bind_eq_some_iff] at h
  obtain ⟨s, hs, h⟩ := h
  obtain ⟨i, hi, rfl⟩ := Option.map_eq_some_iff.mp h
  exact ⟨i, s, hi, hs, rfl⟩

theorem script_of_getElem?_steps {v : Verifier} {script : List Instruction} {k : Nat} {step : Step}
    (h : (simulate v script).steps[k]? = some step) : step.script = script.drop k := by
  cases k with
  | zero =>
      cases h
      rfl
  | succ k =>
      obtain ⟨i, s, _, _, rfl⟩ := exists_of_getElem?_steps h
      cases i.execute v s <;> rfl

theorem stack_of_getElem?_steps {v : Verifier} {script : List Instruction} {k : Nat} {step : Step}
    {s : Stack} (h : (simulate v script).steps[k]? = some step)
    (hs : Trace.stackAfter? v (script.take k) .empty = some s) : step.stack = s.toList := by
  cases k with
  | zero =>
      cases h
      cases hs
      rfl
  | succ k =>
      obtain ⟨i, u, hi, hu, rfl⟩ := exists_of_getElem?_steps h
      rw [List.take_add_one, hi, Trace.stackAfter?_append, hu, Option.bind_some, Option.toList_some] at hs
      cases hexecute : i.execute v u with
      | ok report t =>
          rw [Trace.stackAfter?_cons_of_ok hexecute, Trace.stackAfter?_nil] at hs
          cases hs
          rfl
      | error failure t =>
          rw [Trace.stackAfter?_cons_of_error hexecute] at hs
          cases hs

/-- A step and the one after it: the instruction that comes next is executed on the stack that is there, and the outcome is recorded. -/
theorem exists_of_consecutive_steps {v : Verifier} {script : List Instruction} {k : Nat}
    {before after : Step} (hbefore : (simulate v script).steps[k]? = some before)
    (hafter : (simulate v script).steps[k + 1]? = some after) :
    ∃ i rest, before.script = i :: rest ∧
      after = .ofResult rest (i.execute v (Stack.ofList before.stack)) := by
  obtain ⟨i, s, hi, hs, rfl⟩ := exists_of_getElem?_steps hafter
  have hk : k < script.length := (List.getElem?_eq_some_iff.mp hi).1
  refine ⟨i, script.drop (k + 1), ?_, ?_⟩
  · rw [script_of_getElem?_steps hbefore, List.drop_eq_getElem_cons hk,
      (List.getElem?_eq_some_iff.mp hi).2]
  · rw [stack_of_getElem?_steps hbefore hs, Stack.ofList_toList]

/-! ### The verdict -/

/-- Some step of the trace failed. -/
def Trace.Fails (t : Trace) : Prop := ∃ step ∈ t.steps, step.failed = true

section

variable {v : Verifier} {script : List Instruction} {s : Stack}

theorem simulate_of_some (h : Trace.stackAfter? v script .empty = some s) :
    (∀ step ∈ (simulate v script).steps, step.failed = false) ∧
      ∃ last, (simulate v script).steps.getLast? = some last ∧ last.stack = s.toList :=
  Trace.stepsFrom_of_some rfl rfl h

/-- A run fails exactly if there is no stack that it leaves; then its last step is the failed one. -/
theorem simulate_of_none (h : Trace.stackAfter? v script .empty = none) :
    ∃ last, (simulate v script).steps.getLast? = some last ∧ last.failed = true := by
  obtain ⟨k, hk⟩ := Trace.exists_failsAt_of_none h
  obtain ⟨before, failure, t, hsteps, _⟩ := hk.stepsFrom_eq
  refine ⟨.ofFailure (script.drop (k + 1)) t failure, ?_, rfl⟩
  rw [steps_simulate, hsteps, ← List.cons_append, List.getLast?_append, List.getLast?_singleton, Option.some_or]

theorem simulate_fails_iff :
    (simulate v script).Fails ↔ Trace.stackAfter? v script .empty = none := by
  constructor
  · rintro ⟨step, hstep, hfailed⟩
    cases h : Trace.stackAfter? v script .empty with
    | none => rfl
    | some s =>
        rw [(simulate_of_some h).1 step hstep] at hfailed
        cases hfailed
  · intro h
    obtain ⟨last, hlast, hfailed⟩ := simulate_of_none h
    exact ⟨last, List.mem_of_getLast? hlast, hfailed⟩

theorem exists_stackAfter?_of_not_fails (h : ¬ (simulate v script).Fails) :
    ∃ s, Trace.stackAfter? v script .empty = some s := by
  rw [simulate_fails_iff] at h
  exact Option.ne_none_iff_exists'.mp h

theorem finalStack_simulate (h : Trace.stackAfter? v script .empty = some s) :
    (simulate v script).finalStack = s.toList := by
  obtain ⟨_, last, hlast, hstack⟩ := simulate_of_some h
  rw [Trace.finalStack, hlast, Option.map_some, Option.getD_some, hstack]

theorem valid_simulate_of_some (h : Trace.stackAfter? v script .empty = some s) :
    (simulate v script).valid = s.toList.head?.any (·.truthy) := by
  obtain ⟨hnone, last, hlast, hstack⟩ := simulate_of_some h
  change Trace.accepts (simulate v script).steps = _
  rw [Trace.accepts, hlast, Option.any_some, hnone last (List.mem_of_getLast? hlast), hstack]
  rfl

theorem valid_simulate_of_none (h : Trace.stackAfter? v script .empty = none) :
    (simulate v script).valid = false := by
  obtain ⟨last, hlast, hfailed⟩ := simulate_of_none h
  change Trace.accepts (simulate v script).steps = _
  rw [Trace.accepts, hlast, Option.any_some, hfailed]
  rfl

end

end ScriptTrace
