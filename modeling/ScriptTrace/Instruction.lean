import ScriptTrace.Opcode.Basic

/-!
# Instructions

A script is a list of instructions, and so is what it leaves on the stack: literal integers, markers that stand for signatures and public keys, and opcodes. Two instructions are the same only if they are built alike, so the integer one, the marker `1` and `OP_1` are three instructions.
-/

namespace ScriptTrace

/-- An element of a script or of the stack. -/
inductive Instruction where
  | int (value : Int64)
  | marker (text : String)
  | op (code : Opcode)
  deriving DecidableEq

namespace Instruction

/-- The literal of an integer. Literals have the range of signed 64-bit words. -/
def ofInt? (n : Int) : Option Instruction :=
  if Int64.minValue.toInt ≤ n ∧ n ≤ Int64.maxValue.toInt then some (.int (.ofInt n)) else none

/-- The number an instruction counts as in arithmetic, if it counts as one. -/
def number? : Instruction → Option Int64
  | .int n => some n
  | .marker _ => none
  | .op code => code.smallInt?

def marker? : Instruction → Option String
  | .marker text => some text
  | _ => none

/-- Everything but the two ways to write zero is true. -/
def truthy : Instruction → Bool
  | .int n => n != 0
  | .marker _ => true
  | .op code => code != .num0

def text : Instruction → String
  | .int n => toString n.toInt
  | .marker text => text
  | .op code => code.name

/-- The texts of several instructions between brackets. -/
def listing (instructions : List Instruction) : String :=
  "[" ++ ", ".intercalate (instructions.map text) ++ "]"

/-- The result of a test: the integer one or zero. -/
def ofBool (b : Bool) : Instruction := .int (if b then 1 else 0)

@[simp] theorem truthy_ofBool (b : Bool) : (ofBool b).truthy = b := by
  cases b <;> rfl

/-- The false instructions are exactly those that count as zero. -/
theorem truthy_eq_false_iff {i : Instruction} : i.truthy = false ↔ i.number? = some 0 := by
  cases i with
  | int n => simp [truthy, number?]
  | marker t => simp [truthy, number?]
  | op c => cases c <;> decide

end Instruction

end ScriptTrace
