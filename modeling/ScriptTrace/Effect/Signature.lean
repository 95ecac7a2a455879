import ScriptTrace.Effect.Basic
import ScriptTrace.Verifier

/-!
# Signature checks

A single check tries one signature against one key. A multiple check tries every signature against every key and counts the pairs that verify, each pair of items once however often it occurs on the stack; it passes if there are at least as many such pairs as signatures. On the stack stand, from the top, the number of keys, the keys, the number of signatures, and the signatures.
-/

namespace ScriptTrace.Effect

open StackM

/-- The distinct pairs of a signature and a key that verify. -/
def verifiedPairs (v : Verifier) (signatures pubkeys : List Instruction) :
    List (Instruction × Instruction) :=
  signatures.eraseDups.flatMap fun s =>
    (pubkeys.eraseDups.filter fun k => v.verify s k).map fun k => (s, k)

/-- Take off `count` items that are all accepted; `shortfall` tells what is wrong after how many. -/
def popAccepted (op : Opcode) (accept : Instruction → Bool) (shortfall : Nat → MultisigFault)
    (received : Nat) : Nat → StackM (List Instruction)
  | 0 => return []
  | count + 1 => do
    let item ← popOperand op
    if !accept item then throw (.multisig op (shortfall received))
    let items ← popAccepted op accept shortfall (received + 1) count
    return item :: items

/-- Push the result of a check, unless the check is enforced and did not pass. -/
def conclude (op : Opcode) (check : Check) (passed enforced : Bool) : StackM Report := do
  if enforced && !passed then throw (.verifyFailed op check)
  push (.ofBool passed)
  return .tested op check passed enforced

def checkSig (v : Verifier) (op : Opcode) (enforced : Bool) : StackM Report := do
  let pubkey ← popOperand op
  let signature ← popOperand op
  conclude op (.signature signature pubkey) (v.verify signature pubkey) enforced

def popPubkeys (v : Verifier) (op : Opcode) : StackM (List Instruction) := do
  let needed ← popNumber op
  let size ← size
  if 0 ≤ needed ∧ needed ≤ size then
    let count := needed.toNat
    popAccepted op v.isPubkey (.missingPubkeys count) 0 count
  else
    throw (.multisig op (.tooManyPubkeys needed size))

/-- There may be no more signatures than keys. -/
def popSignatures (v : Verifier) (op : Opcode) (pubkeys : Nat) : StackM (List Instruction) := do
  if (← size) = 0 then throw (.multisig op .noSignatureCount)
  let needed ← popNumber op
  let size ← size
  if 0 ≤ needed ∧ needed ≤ pubkeys ∧ needed ≤ size then
    let count := needed.toNat
    popAccepted op v.isSignature (.missingSignatures count) 0 count
  else
    throw (.multisig op (.tooManySignatures needed pubkeys size))

def checkMultisig (v : Verifier) (op : Opcode) (enforced : Bool) : StackM Report := do
  let pubkeys ← popPubkeys v op
  let signatures ← popSignatures v op pubkeys.length
  let verified := (verifiedPairs v signatures pubkeys).length
  let required := signatures.length
  conclude op (.multisig verified required pubkeys.length) (required ≤ verified) enforced

def checkSignatures (v : Verifier) (op : Opcode) : StackM Report :=
  match op.operation? with
  | some (.checkSig enforced) => checkSig v op enforced
  | some (.checkMultisig enforced) => checkMultisig v op enforced
  | _ => throw (.wrongFamily op .signature)

end ScriptTrace.Effect
