import ScriptTrace.Effect.Arithmetic
import ScriptTrace.Effect.Equality
import ScriptTrace.Effect.Rearrange
import ScriptTrace.Effect.Signature

/-!
# Executing one instruction

A literal is pushed. An opcode is refused if it is disabled, then if the stack is too small for it; after that its family carries it out, and an opcode without a family is pushed like a literal.
-/

namespace ScriptTrace

def Family.run (v : Verifier) (op : Opcode) : Family → StackM Report
  | .unaryArithmetic => Effect.unary op
  | .binaryArithmetic => Effect.binary op
  | .within => Effect.within op
  | .stackManipulation => Effect.rearrange op
  | .equality => Effect.equal op
  | .verify => Effect.verify op
  | .signature => Effect.checkSignatures v op

def Opcode.execute (v : Verifier) (op : Opcode) : StackM Report := do
  if op.disabled then throw (.disabled op)
  let available ← StackM.size
  if available < op.argCount then throw (.insufficientArguments op op.argCount available)
  match op.family? with
  | some family => family.run v op
  | none =>
    StackM.push (.op op)
    return .unimplemented op

def Instruction.execute (v : Verifier) : Instruction → StackM Report
  | .op code => code.execute v
  | literal => do
    StackM.push literal
    return .pushed literal

end ScriptTrace
