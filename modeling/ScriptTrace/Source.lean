import ScriptTrace.Text.Blank
import ScriptTrace.Text.Decimal
import ScriptTrace.Trace.Basic

/-!
# Scripts as text

A script is written as tokens between blanks. A token is the name of an opcode, one of the two reserved markers, or an integer in the literal range. The whole text is read before anything is executed, so an unknown token is reported even if the script is also too long.
-/

namespace ScriptTrace

/-- Why a text is not accepted as a script. Positions count tokens from zero. -/
inductive SourceError where
  | unknownToken (token : String) (position : Nat)
  | scriptTooLong (length limit : Nat)
  deriving DecidableEq

def SourceError.message : SourceError → String
  | .unknownToken token position =>
    s!"unknown token `{token}` at position {position}: not an opcode, reserved literal or integer"
  | .scriptTooLong length limit => s!"script has {length} instructions, limit is {limit}"

/-- The markers that can be written in a script. -/
def reservedMarkers : List String := ["SIGNATURE", "PUBKEY"]

/-- The number of instructions a script may have if nothing else is said. -/
def defaultLimit : Nat := 10000

def Instruction.ofToken? (token : String) : Option Instruction :=
  match Opcode.ofName? token with
  | some code => some (.op code)
  | none =>
    if reservedMarkers.contains token then some (.marker token)
    else (Text.readInt? token.toList).bind Instruction.ofInt?

def tokens (raw : String) : List String := (Text.words raw.toList).map String.ofList

def readToken (token : String) (position : Nat) : Except SourceError Instruction :=
  match Instruction.ofToken? token with
  | some i => .ok i
  | none => .error (.unknownToken token position)

def readScript (raw : String) : Except SourceError (List Instruction) :=
  (tokens raw).zipIdx.mapM fun (token, position) => readToken token position

/-- Read a script, check its length, and run it. -/
def run (v : Verifier) (limit : Nat) (raw : String) : Except SourceError Trace := do
  let script ← readScript raw
  if limit < script.length then throw (.scriptTooLong script.length limit)
  return simulate v script

end ScriptTrace
