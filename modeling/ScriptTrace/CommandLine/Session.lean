import ScriptTrace.CommandLine.Options
import ScriptTrace.Trace.Render

/-!
# A run of the command line

From the arguments and the bytes on standard input to what is printed and the exit code: zero if the script was run, one if it could not be read, and two for malformed arguments or, on request, for an invalid script. Without script tokens the script is the first line of standard input, which has to be UTF-8.
-/

namespace ScriptTrace.CommandLine

/-- What a run prints, and its exit code. -/
structure Session where
  exitCode : Nat
  output : String
  error : Option String
  deriving DecidableEq

def prompt : String := "Enter Script: "

def Session.refused (reason : String) : Session := ⟨1, "", some ("error: " ++ reason)⟩

def Session.malformed : Session := ⟨2, "", none⟩

/-- Print something before everything else. -/
def Session.after (s : Session) (text : String) : Session := { s with output := text ++ s.output }

def Format.show (t : Trace) : Format → String
  | .plain => t.plain
  | .json => t.toJson.indented

namespace Options

/-- Run a script and print its trace. -/
def perform (o : Options) (raw : String) : Session :=
  match run .placeholder o.limit raw with
  | .error e => .refused e.message
  | .ok trace => ⟨if o.strict && !trace.valid then 2 else 0, o.format.show trace ++ "\n", none⟩

/-- Run the script on the first line of the input. -/
def performInput (o : Options) (input : List UInt8) : Session :=
  match String.fromUTF8? ⟨(input.takeWhile (· != 10)).toArray⟩ with
  | some line => o.perform line
  | none => .refused "failed to read script: stream did not contain valid UTF-8"

end Options

def session (args : List String) (input : List UInt8) : Session :=
  match Options.parse? args with
  | none => .malformed
  | some o =>
    if o.tokens.isEmpty then (o.performInput input).after prompt
    else o.perform (" ".intercalate o.tokens)

end ScriptTrace.CommandLine
