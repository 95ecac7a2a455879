import ScriptTrace.Trace.Basic

/-!
# Stepwise execution

The same run as in a trace, taken one instruction at a time. Between the steps the rest of the script, the stack and the steps so far can be looked at.
-/

namespace ScriptTrace

/-- A run that is under way or over. -/
structure Execution where
  verifier : Verifier
  remaining : List Instruction
  stack : Stack
  /-- The steps so far, oldest first. -/
  steps : Array Step

inductive Status where
  | running | succeeded | failed
  deriving DecidableEq

def Status.text : Status → String
  | .running => "running"
  | .succeeded => "succeeded"
  | .failed => "failed"

namespace Execution

def start (v : Verifier) (script : List Instruction) : Execution :=
  ⟨v, script, .empty, #[.setup script]⟩

def status (e : Execution) : Status :=
  if e.steps.back?.any (·.failed) then .failed
  else if e.remaining.isEmpty then .succeeded
  else .running

/-- Record a step and go on with the given stack. -/
def record (e : Execution) (remaining : List Instruction) (stack : Stack) (step : Step) :
    Execution :=
  { e with remaining, stack, steps := e.steps.push step }

/-- Execute the next instruction and record the step. A run that is over has none and stays as it is. -/
def step (e : Execution) : Option Step × Execution :=
  match e.status, e.remaining with
  | .running, i :: rest =>
    match i.execute e.verifier e.stack with
    | .ok report s =>
      let step := Step.ofReport rest s report
      (some step, e.record rest s step)
    | .error failure s =>
      let step := Step.ofFailure rest s failure
      (some step, e.record rest s step)
  | _, _ => (none, e)

/-- The step that was taken and the run after it, if there was one to take. -/
def step? (e : Execution) : Option (Step × Execution) :=
  let (taken, next) := e.step
  taken.map fun step => (step, next)

theorem step?_eq_some_iff {e next : Execution} {step : Step} :
    e.step? = some (step, next) ↔ e.step = (some step, next) := by
  unfold step?
  rcases e.step with ⟨_ | taken, after⟩ <;> simp

theorem step?_eq_none_iff {e : Execution} : e.step? = none ↔ e.step.1 = none := by
  unfold step?
  rcases e.step with ⟨_ | taken, after⟩ <;> simp

theorem length_remaining_of_step {e next : Execution} {step : Step}
    (h : e.step = (some step, next)) : next.remaining.length < e.remaining.length := by
  unfold Execution.step at h
  split at h
  · rename_i i rest _ hremaining
    rw [hremaining, List.length_cons]
    split at h <;> cases h <;> exact Nat.lt_succ_self _
  · cases h

/-- The script is valid if the run did not fail and left a true item on top. -/
def valid (e : Execution) : Bool :=
  e.status != .failed && e.stack.top?.any (·.truthy)

/-- Take all the steps that are left. -/
def finish (e : Execution) : Trace :=
  match _ : e.step? with
  | some (_, next) => next.finish
  | none => ⟨e.steps.toList, e.valid⟩
termination_by e.remaining.length
decreasing_by exact length_remaining_of_step (step?_eq_some_iff.mp ‹_›)

end Execution

end ScriptTrace
