import ScriptTrace.Report
import ScriptTrace.Stack.Basic

/-!
# Effects on the stack

An operation is a computation that may change the stack and may fail. When it fails, the stack stays as the failure found it: operands that were already taken are gone. The operations below are the only ones that touch the stack; each names the opcode on whose behalf it acts, for the failure it may raise.
-/

namespace ScriptTrace

abbrev StackM := EStateM Failure Stack

namespace StackM

def push (item : Instruction) : StackM Unit := fun s => .ok () (s.push item)

def size : StackM Nat := fun s => .ok s.size s

def popOperand (op : Opcode) : StackM Instruction := fun s =>
  match s.pop? with
  | some (item, rest) => .ok item rest
  | none => .error (.stackUnderflow op) s

/-- An operand that is not a number is taken off the stack all the same. -/
def popNumber (op : Opcode) : StackM Int := do
  let item ← popOperand op
  match item.number? with
  | some n => return n.toInt
  | none => throw (.notNumeric op item)

/-- Results are computed exactly and pushed only if they are in range. -/
def pushNumber (op : Opcode) (n : Int) : StackM Unit :=
  match Instruction.ofInt? n with
  | some literal => push literal
  | none => throw (.numericOverflow op)

def operandAt (op : Opcode) (depth : Nat) : StackM Instruction := fun s =>
  match s.peek? depth with
  | some item => .ok item s
  | none => .error (.stackUnderflow op) s

def removeAt (op : Opcode) (depth : Nat) : StackM Instruction := fun s =>
  match s.remove? depth with
  | some (item, rest) => .ok item rest
  | none => .error (.stackUnderflow op) s

def insertAt (op : Opcode) (depth : Nat) (item : Instruction) : StackM Unit := fun s =>
  match s.insert? depth item with
  | some s => .ok () s
  | none => .error (.stackUnderflow op) s

def swapAt (op : Opcode) (depth other : Nat) : StackM Unit := fun s =>
  match s.swap? depth other with
  | some s => .ok () s
  | none => .error (.stackUnderflow op) s

end StackM

end ScriptTrace
