import ScriptTrace.CommandLine.Session

/-!
# The program

Runs a script given on the command line or on standard input, and prints its trace.
-/

namespace ScriptTrace.CommandLine

/-- The bytes of one line, without its end. -/
partial def readLine (input : IO.FS.Stream) (line : List UInt8) : IO (List UInt8) := do
  match (← input.read 1).toList with
  | byte :: _ => if byte = 10 then return line.reverse else readLine input (byte :: line)
  | [] => return line.reverse

/-- Stands for all that could be said about malformed arguments. -/
def usage : String :=
  "usage: [-f plain|json] [--max-script-len N] [--strict] [-v] [TOKEN]..."

def performPrompted (options : Options) : IO Session := do
  IO.print prompt
  (← IO.getStdout).flush
  return options.performInput (← readLine (← IO.getStdin) [])

end ScriptTrace.CommandLine

open ScriptTrace.CommandLine in
def main (args : List String) : IO UInt32 := do
  let some options := Options.parse? args
    | IO.eprintln usage
      return 2
  let result ←
    if options.tokens.isEmpty then performPrompted options
    else pure (options.perform (" ".intercalate options.tokens))
  IO.print result.output
  if let some error := result.error then IO.eprintln error
  return result.exitCode.toUInt32
