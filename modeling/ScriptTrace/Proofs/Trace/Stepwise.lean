import Mathlib.Data.List.Basic
import ScriptTrace.Proofs.Trace.Run
import ScriptTrace.Trace.Execution

/-!
# Stepwise execution and the whole run

An execution does not store what it still has to do. It is read off its state: `upcoming` lists the steps that a run from here would record, none if the last step failed. Taking a step moves the first of them to the recorded ones, so the two lists together never change; from the start on they are the steps of the whole run. All that is observed between the steps follows, together with the fact that the stack and the script held by the execution are those of the last recorded step.
-/

namespace ScriptTrace.Execution

open Trace (stepsFrom stepsFrom_nil stepsFrom_cons_of_ok stepsFrom_cons_of_error)

/-- The steps that are left to take. -/
def upcoming (e : Execution) : List Step :=
  if e.status = .failed then [] else stepsFrom e.verifier e.remaining e.stack

/-- The last recorded step shows the stack and the script as they are. -/
def InStep (e : Execution) : Prop :=
  ∃ last, e.steps.back? = some last ∧ last.stack = e.stack.toList ∧ last.script = e.remaining

theorem inStep_start (v : Verifier) (script : List Instruction) : (start v script).InStep :=
  ⟨.setup script, rfl, rfl, rfl⟩

theorem upcoming_start (v : Verifier) (script : List Instruction) :
    (start v script).upcoming = stepsFrom v script .empty := by
  rw [upcoming, if_neg]
  · rfl
  · cases script <;> exact nofun

/-! ### One step -/

theorem status_eq_failed_iff {e : Execution} {last : Step} (h : e.steps.back? = some last) :
    e.status = .failed ↔ last.failed = true := by
  rw [status, h, Option.any_some]
  cases last.failed <;> cases e.remaining.isEmpty <;> simp

theorem status_eq_running_iff (e : Execution) : e.status = .running ↔ e.upcoming ≠ [] := by
  rw [upcoming, status]
  cases e.steps.back?.any (·.failed) with
  | true => simp
  | false =>
      cases hremaining : e.remaining with
      | nil => simp [stepsFrom_nil]
      | cons i rest =>
          cases hexecute : i.execute e.verifier e.stack with
          | ok report s => simp [stepsFrom_cons_of_ok hexecute]
          | error failure s => simp [stepsFrom_cons_of_error hexecute]

/-- All that a step can do: the next instruction is executed and its outcome recorded. -/
theorem exists_of_step {e next : Execution} {step : Step} (h : e.step = (some step, next)) :
    ∃ i rest, e.status = .running ∧ e.remaining = i :: rest ∧
      ((∃ report s, i.execute e.verifier e.stack = .ok report s ∧ step = .ofReport rest s report ∧
          next = e.record rest s step) ∨
        ∃ failure s, i.execute e.verifier e.stack = .error failure s ∧
          step = .ofFailure rest s failure ∧ next = e.record rest s step) := by
  unfold Execution.step at h
  split at h
  · rename_i i rest hstatus hremaining
    refine ⟨i, rest, hstatus, hremaining, ?_⟩
    split at h
    · rename_i report s hexecute
      cases h
      exact .inl ⟨report, s, hexecute, rfl, rfl⟩
    · rename_i failure s hexecute
      cases h
      exact .inr ⟨failure, s, hexecute, rfl, rfl⟩
  · cases h

/-- A call that returns no step leaves the execution as it was, and that happens only when there is none left. -/
theorem of_step_eq_none {e : Execution} (h : e.step.1 = none) :
    e.step.2 = e ∧ e.upcoming = [] := by
  revert h
  fun_cases Execution.step e with
  | case1 => nofun
  | case2 => nofun
  | case3 hover =>
      intro _
      refine ⟨rfl, ?_⟩
      -- A running execution has an instruction left, which is one of the other cases.
      by_contra hupcoming
      have hstatus := (status_eq_running_iff e).mpr hupcoming
      cases hremaining : e.remaining with
      | cons i rest => exact hover i rest hstatus hremaining
      | nil =>
          rw [upcoming, hstatus, hremaining] at hupcoming
          exact hupcoming rfl

theorem back?_record (e : Execution) (rest : List Instruction) (s : Stack) (step : Step) :
    (e.record rest s step).steps.back? = some step := by
  rw [record, Array.back?_push]

theorem upcoming_of_step {e next : Execution} {step : Step} (h : e.step = (some step, next)) :
    e.upcoming = step :: next.upcoming := by
  obtain ⟨i, rest, hstatus, hremaining, hcases⟩ := exists_of_step h
  have hupcoming : e.upcoming = stepsFrom e.verifier (i :: rest) e.stack := by
    rw [upcoming, hstatus, hremaining]
    rfl
  rcases hcases with ⟨report, s, hexecute, rfl, rfl⟩ | ⟨failure, s, hexecute, rfl, rfl⟩
  · have hnext := status_eq_failed_iff (back?_record e rest s (.ofReport rest s report))
    rw [hupcoming, stepsFrom_cons_of_ok hexecute, upcoming, if_neg (hnext.not.mpr nofun)]
    rfl
  · have hnext := status_eq_failed_iff (back?_record e rest s (.ofFailure rest s failure))
    rw [hupcoming, stepsFrom_cons_of_error hexecute, upcoming, if_pos (hnext.mpr rfl)]

theorem steps_of_step {e next : Execution} {step : Step} (h : e.step = (some step, next)) :
    next.steps.toList = e.steps.toList ++ [step] := by
  obtain ⟨i, rest, _, _, ⟨report, s, _, _, rfl⟩ | ⟨failure, s, _, _, rfl⟩⟩ := exists_of_step h
  · rw [record, Array.toList_push]
  · rw [record, Array.toList_push]

theorem inStep_of_step {e next : Execution} {step : Step} (h : e.step = (some step, next)) :
    next.InStep := by
  obtain ⟨i, rest, _, _, ⟨report, s, _, rfl, rfl⟩ | ⟨failure, s, _, rfl, rfl⟩⟩ := exists_of_step h
  · exact ⟨_, back?_record e rest s _, rfl, rfl⟩
  · exact ⟨_, back?_record e rest s _, rfl, rfl⟩

/-! ### To the end -/

/-- With nothing left to do, the verdict of the execution is the one read off its last step. -/
theorem valid_eq_accepts {e : Execution} (h : e.InStep) :
    e.valid = Trace.accepts e.steps.toList := by
  obtain ⟨last, hlast, hstack, _⟩ := h
  have hfailed := status_eq_failed_iff hlast
  have htop : e.stack.top? = last.stack.head? := by
    rw [hstack, ← Stack.top?_ofList, Stack.ofList_toList]
  rw [valid, Trace.accepts, Array.getLast?_toList, hlast, Option.any_some, htop]
  cases hlastFailed : last.failed with
  | true => simp [hfailed.mpr hlastFailed]
  | false => simp [mt hfailed.mp (by simp [hlastFailed])]

/-- Finishing records what is left to do. -/
theorem finish_eq {e : Execution} (h : e.InStep) :
    e.finish = .ofSteps (e.steps.toList ++ e.upcoming) := by
  -- Both lists change with every step; being in step is all that the induction has to carry along.
  fun_induction finish e with
  | case1 e step next hstep ih =>
      have hstep := step?_eq_some_iff.mp hstep
      rw [ih (inStep_of_step hstep), steps_of_step hstep, upcoming_of_step hstep,
        List.append_assoc, List.singleton_append]
  | case2 e hstep =>
      obtain ⟨_, hupcoming⟩ := of_step_eq_none (step?_eq_none_iff.mp hstep)
      rw [hupcoming, List.append_nil, Trace.ofSteps, valid_eq_accepts h]

theorem finish_start (v : Verifier) (script : List Instruction) :
    (start v script).finish = simulate v script := by
  rw [finish_eq (inStep_start v script), upcoming_start]
  rfl

/-! ### Calls -/

/-- The execution after a number of calls for the next step. -/
def afterCalls (e : Execution) : Nat → Execution
  | 0 => e
  | j + 1 => (e.afterCalls j).step.2

theorem step_spec {e : Execution} (h : e.InStep) :
    e.step.1 = e.upcoming.head? ∧ e.step.2.InStep ∧
      e.step.2.steps.toList = e.steps.toList ++ e.upcoming.take 1 ∧
      e.step.2.upcoming = e.upcoming.drop 1 := by
  cases hstep : e.step.1 with
  | none =>
      obtain ⟨hnext, hupcoming⟩ := of_step_eq_none hstep
      rw [hnext, hupcoming]
      simp [h]
  | some step =>
      have hstep : e.step = (some step, e.step.2) := Prod.ext hstep rfl
      rw [upcoming_of_step hstep, steps_of_step hstep]
      simp [inStep_of_step hstep]

/-- Each call moves one step from those that are left to those that are recorded. -/
theorem afterCalls_spec {e : Execution} (h : e.InStep) (j : Nat) :
    (e.afterCalls j).InStep ∧
      (e.afterCalls j).steps.toList = e.steps.toList ++ e.upcoming.take j ∧
      (e.afterCalls j).upcoming = e.upcoming.drop j := by
  induction j with
  | zero => exact ⟨h, by simp [afterCalls], by simp [afterCalls]⟩
  | succ j ih =>
      obtain ⟨hinStep, hsteps, hupcoming⟩ := ih
      obtain ⟨_, hnext, hnextSteps, hnextUpcoming⟩ := step_spec hinStep
      refine ⟨hnext, ?_, ?_⟩
      · rw [afterCalls, hnextSteps, hsteps, hupcoming, List.append_assoc, List.take_add]
      · rw [afterCalls, hnextUpcoming, hupcoming, List.drop_drop]

/-- An execution that has nothing left to do is over, in the way its last step tells. -/
theorem status_of_upcoming_eq_nil {e : Execution} {last : Step} (hlast : e.steps.back? = some last)
    (h : e.upcoming = []) : e.status = if last.failed then .failed else .succeeded := by
  have hrunning : e.status ≠ .running := fun hstatus => (status_eq_running_iff e).mp hstatus h
  have hfailed := status_eq_failed_iff hlast
  cases hstatus : e.status with
  | running => exact absurd hstatus hrunning
  | failed => rw [hfailed.mp hstatus]; rfl
  | succeeded =>
      have hnot : last.failed = false := by
        rw [← Bool.not_eq_true, ← hfailed, hstatus]
        exact nofun
      rw [hnot]
      rfl

theorem simulate_steps_eq (v : Verifier) (script : List Instruction) :
    (simulate v script).steps = .setup script :: (start v script).upcoming := by
  rw [upcoming_start, steps_simulate]

/-- **Stepping agrees with the whole run.** After any number `j` of calls, where the whole run has `n` steps besides the setup: what each call returned, the steps recorded, the stack and the script held, the status, and the trace that finishing gives. -/
theorem afterCalls_agrees_with_simulate (v : Verifier) (script : List Instruction) (j : Nat) :
    let e := (start v script).afterCalls j
    ∃ n, (simulate v script).steps.length = n + 1 ∧
      (∀ i, 1 ≤ i → i ≤ j →
        ((start v script).afterCalls (i - 1)).step.1 = (simulate v script).steps[i]?) ∧
      e.steps.toList = (simulate v script).steps.take (min j n + 1) ∧
      (∃ last, e.steps.back? = some last ∧ e.stack.toList = last.stack ∧
        e.remaining = last.script ∧
        (n ≤ j → e.status = if last.failed then .failed else .succeeded)) ∧
      (e.status = .running ↔ j < n) ∧
      (e.step.1 = none → e.step.2 = e) ∧
      e.finish = simulate v script := by
  intro e
  have hstart := inStep_start v script
  obtain ⟨hinStep, hsteps, hupcoming⟩ := afterCalls_spec hstart j
  have hdone : e.upcoming = [] ↔ (start v script).upcoming.length ≤ j := by
    rw [hupcoming, List.drop_eq_nil_iff]
  refine ⟨(start v script).upcoming.length, ?_, ?_, ?_, ?_, ?_, ?_, ?_⟩
  · rw [simulate_steps_eq, List.length_cons]
  · intro i hi _
    obtain ⟨k, rfl⟩ : ∃ k, i = k + 1 := ⟨i - 1, by omega⟩
    obtain ⟨hk, _, hkUpcoming⟩ := afterCalls_spec hstart k
    rw [Nat.add_sub_cancel, (step_spec hk).1, hkUpcoming, List.head?_drop, simulate_steps_eq,
      List.getElem?_cons_succ]
  · rw [hsteps, simulate_steps_eq, List.take_succ_cons, ← List.take_eq_take_min]
    rfl
  · obtain ⟨last, hlast, hstack, hscript⟩ := hinStep
    refine ⟨last, hlast, hstack.symm, hscript.symm, fun hj => ?_⟩
    exact status_of_upcoming_eq_nil hlast (hdone.mpr hj)
  · rw [status_eq_running_iff, ne_eq, hdone, Nat.not_le]
  · intro hnone
    exact (of_step_eq_none hnone).1
  · rw [finish_eq hinStep, hsteps, hupcoming, List.append_assoc, List.take_append_drop,
      upcoming_start]
    rfl

end ScriptTrace.Execution
