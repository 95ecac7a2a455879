import ScriptTrace.Effect.Basic

/-!
# Arithmetic

Operands are taken from the top; the first one taken is the left operand. Opcodes of another family are refused only after the operands are taken.
-/

namespace ScriptTrace.Effect

open StackM

def unary (op : Opcode) : StackM Report := do
  let x ← popNumber op
  match op.operation? with
  | some (.unary f) =>
    pushNumber op (f.eval x)
    return .unary op x (f.eval x)
  | _ => throw (.wrongFamily op .unaryArithmetic)

def binary (op : Opcode) : StackM Report := do
  let a ← popNumber op
  let b ← popNumber op
  match op.operation? with
  | some (.binary f) =>
    pushNumber op (f.eval a b)
    return .binary op a b (f.eval a b)
  | some .numEqualVerify =>
    if a = b then
      push (.ofBool true)
      return .tested op (.numEqual a b) true true
    else
      throw (.verifyFailed op (.numEqual a b))
  | _ => throw (.wrongFamily op .binaryArithmetic)

/-- The upper bound is on top, below it the lower bound, and below that the number to test. -/
def within (op : Opcode) : StackM Report := do
  let hi ← popNumber op
  let lo ← popNumber op
  let x ← popNumber op
  let inside := decide (lo ≤ x ∧ x < hi)
  push (.ofBool inside)
  return .within x lo hi inside

end ScriptTrace.Effect
