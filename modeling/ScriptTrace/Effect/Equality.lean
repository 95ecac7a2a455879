import ScriptTrace.Effect.Basic

/-!
# Equality and verification

Items are equal if they are the same instruction. A failed `OP_EQUALVERIFY` leaves the zero it pushed; `OP_VERIFY` pushes nothing. Any other opcode is treated as the one that does not enforce its test.
-/

namespace ScriptTrace.Effect

open StackM

def equal (op : Opcode) : StackM Report := do
  let a ← popOperand op
  let b ← popOperand op
  let passed := a == b
  let enforced := op.operation? == some (.equal true)
  push (.ofBool passed)
  if enforced && !passed then throw (.verifyFailed op (.equal a b))
  return .tested op (.equal a b) passed enforced

def verify (op : Opcode) : StackM Report := do
  let a ← popOperand op
  if a.truthy then return .tested op (.truthy a) true true
  else throw (.verifyFailed op (.truthy a))

end ScriptTrace.Effect
