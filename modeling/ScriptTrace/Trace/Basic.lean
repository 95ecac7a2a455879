import ScriptTrace.Effect.Execute

/-!
# Traces

A run of a script leaves a trace: a step for the setup, and one step for each instruction executed, with the rest of the script and the stack as they are after it. The run ends after the last instruction or after the first one that fails. A script is valid if nothing failed and a true item is on top at the end.
-/

namespace ScriptTrace

inductive StepKind where
  | setup | push | executed | unimplemented | failed
  deriving DecidableEq

def StepKind.text : StepKind → String
  | .setup => "setup"
  | .push => "push"
  | .executed => "executed"
  | .unimplemented => "unimplemented"
  | .failed => "failed"

def Report.kind : Report → StepKind
  | .pushed _ => .push
  | .unimplemented _ => .unimplemented
  | _ => .executed

/-- What is recorded about an instruction, or about the start of a run. -/
structure Step where
  /-- The instructions still to come. -/
  script : List Instruction
  /-- The items on the stack, top first. -/
  stack : List Instruction
  message : String
  failed : Bool
  kind : StepKind
  deriving DecidableEq

namespace Step

def setup (script : List Instruction) : Step := ⟨script, [], "Initial setup", false, .setup⟩

def ofReport (script : List Instruction) (stack : Stack) (report : Report) : Step :=
  ⟨script, stack.toList, report.message, false, report.kind⟩

def ofFailure (script : List Instruction) (stack : Stack) (failure : Failure) : Step :=
  ⟨script, stack.toList, failure.message, true, .failed⟩

end Step

/-- A recorded run with its verdict. -/
structure Trace where
  steps : List Step
  valid : Bool
  deriving DecidableEq

namespace Trace

/-- The last step, if it failed. -/
def failure? (t : Trace) : Option Step := t.steps.getLast?.filter (·.failed)

/-- The stack after the last step. -/
def finalStack (t : Trace) : List Instruction := (t.steps.getLast?.map (·.stack)).getD []

/-- The verdict read off the last step. -/
def accepts (steps : List Step) : Bool :=
  steps.getLast?.any fun last => !last.failed && last.stack.head?.any (·.truthy)

def ofSteps (steps : List Step) : Trace := ⟨steps, accepts steps⟩

/-- The steps of a script that starts on the given stack. -/
def stepsFrom (v : Verifier) : List Instruction → Stack → List Step
  | [], _ => []
  | i :: rest, s =>
    match i.execute v s with
    | .ok report s => .ofReport rest s report :: stepsFrom v rest s
    | .error failure s => [.ofFailure rest s failure]

end Trace

/-- The trace of a script from the empty stack. -/
def simulate (v : Verifier) (script : List Instruction) : Trace :=
  .ofSteps (.setup script :: Trace.stepsFrom v script .empty)

end ScriptTrace
