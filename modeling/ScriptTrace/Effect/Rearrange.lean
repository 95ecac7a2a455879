import ScriptTrace.Effect.Basic

/-!
# Rearranging the stack

The opcodes that copy, move and drop items. Each looks at the items it needs before it changes anything, except those that take several items off one after the other: they leave the stack without the items taken so far when there are too few.
-/

namespace ScriptTrace.Effect

open StackM

/-- The number on top, if it is a position in the rest of the stack. -/
def popPosition (op : Opcode) : StackM Nat := do
  let n ← popNumber op
  let size ← size
  if 0 ≤ n ∧ n < size then return n.toNat else throw (.indexOutOfBounds op n size)

def runRearrangement (op : Opcode) : Rearrangement → StackM Change
  | .depth => do
    let n := Int64.ofNat (← size)
    push (.int n)
    return .counted n
  | .dup => do
    let a ← operandAt op 0
    push a
    return .copied a
  | .drop => do
    let a ← popOperand op
    return .popped a
  | .drop2 => do
    let a ← popOperand op
    let b ← popOperand op
    return .popped2 a b
  | .dup2 => do
    let a ← operandAt op 0
    let b ← operandAt op 1
    push b
    push a
    return .copied2 a b
  | .dup3 => do
    let a ← operandAt op 0
    let b ← operandAt op 1
    let c ← operandAt op 2
    push c
    push b
    push a
    return .copied3 a b c
  | .over2 => do
    let c ← operandAt op 2
    let d ← operandAt op 3
    push d
    push c
    return .copied2 c d
  | .rot2 => do
    let e ← removeAt op 4
    let f ← removeAt op 4
    push f
    push e
    return .moved2 e f
  | .swap2 => do
    let a ← operandAt op 0
    let b ← operandAt op 1
    let c ← operandAt op 2
    let d ← operandAt op 3
    swapAt op 0 2
    swapAt op 1 3
    return .swapped2 a b c d
  | .ifDup => do
    let a ← operandAt op 0
    if a.truthy then
      push a
      return .copiedTrue a
    else
      return .keptFalse a
  | .nip => do
    let b ← removeAt op 1
    return .popped b
  | .over => do
    let b ← operandAt op 1
    push b
    return .copied b
  | .pick => do
    let position ← popPosition op
    let a ← operandAt op position
    push a
    return .copiedAt position a
  | .roll => do
    let position ← popPosition op
    let a ← removeAt op position
    push a
    return .takenFrom position a
  | .rot => do
    let c ← removeAt op 2
    push c
    return .moved c
  | .swap => do
    let a ← operandAt op 0
    let b ← operandAt op 1
    swapAt op 0 1
    return .swapped a b
  | .tuck => do
    let a ← operandAt op 0
    insertAt op 2 a
    return .tucked a

def rearrange (op : Opcode) : StackM Report :=
  match op.operation? with
  | some (.rearrange r) => return .rearranged op (← runRearrangement op r)
  | _ => throw (.wrongFamily op .stackManipulation)

end ScriptTrace.Effect
