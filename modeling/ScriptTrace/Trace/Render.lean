import ScriptTrace.Text.Json
import ScriptTrace.Trace.Basic

/-!
# Showing a trace

As plain text, a few lines for each step and then the verdict; or as a JSON value, in which integers are numbers and markers and opcodes are strings.
-/

namespace ScriptTrace

def Instruction.toJson : Instruction → Json
  | .int n => .int n.toInt
  | .marker text => .str text
  | .op code => .str code.name

def Step.toJson (s : Step) : Json := .obj [
  ("script", .arr (s.script.map Instruction.toJson)),
  ("stack", .arr (s.stack.map Instruction.toJson)),
  ("message", .str s.message),
  ("failed", .bool s.failed),
  ("kind", .str s.kind.text)]

def Trace.toJson (t : Trace) : Json := .obj [
  ("steps", .arr (t.steps.map Step.toJson)),
  ("valid", .bool t.valid)]

def Step.plain (s : Step) (number : Nat) : String :=
  let passed := if s.failed then "false" else "true"
  s!"Step {number}:\nMessage: {s.message}\nScript: {Instruction.listing s.script}\n" ++
    s!"Stack: {Instruction.listing s.stack}\nPassed: {passed}\n\n"

def Trace.plain (t : Trace) : String :=
  String.join (t.steps.zipIdx.map fun (s, number) => s.plain number) ++
    if t.valid then "Valid script" else "Invalid script"

end ScriptTrace
