import ScriptTrace.Instruction
import ScriptTrace.Opcode.Operation

/-!
# What happened

An instruction either does its work and reports it, or fails for a reason. Both are kept as data: `Report` and `Failure` say what happened to which items, and their `message` functions are the only places that know the wording. A test, such as a comparison or a signature check, is described once as a `Check` and appears in both.
-/

namespace ScriptTrace

/-- A test on items taken from the stack. -/
inductive Check where
  | numEqual (a b : Int)
  | equal (a b : Instruction)
  | truthy (item : Instruction)
  | signature (sig key : Instruction)
  /-- How many distinct pairs verified, how many signatures were required, and among how many keys. -/
  | multisig (verified required pubkeys : Nat)
  deriving DecidableEq

/-- A change of the stack that leaves the items themselves alone. -/
inductive Change where
  | counted (size : Int64)
  | popped (a : Instruction)
  | popped2 (a b : Instruction)
  | copied (a : Instruction)
  | copied2 (a b : Instruction)
  | copied3 (a b c : Instruction)
  | copiedTrue (a : Instruction)
  | keptFalse (a : Instruction)
  | copiedAt (position : Int) (a : Instruction)
  | takenFrom (position : Int) (a : Instruction)
  | tucked (a : Instruction)
  | moved (a : Instruction)
  | moved2 (a b : Instruction)
  | swapped (a b : Instruction)
  | swapped2 (a b c d : Instruction)
  deriving DecidableEq

/-- What an instruction did. -/
inductive Report where
  | pushed (literal : Instruction)
  | unimplemented (op : Opcode)
  | unary (op : Opcode) (x result : Int)
  | binary (op : Opcode) (a b result : Int)
  | within (x lo hi : Int) (inside : Bool)
  | rearranged (op : Opcode) (change : Change)
  | tested (op : Opcode) (check : Check) (passed enforced : Bool)
  deriving DecidableEq

/-- Why a multiple-signature check could not be carried out. -/
inductive MultisigFault where
  | tooManyPubkeys (needed : Int) (size : Nat)
  | missingPubkeys (needed received : Nat)
  | noSignatureCount
  | tooManySignatures (needed : Int) (pubkeys size : Nat)
  | missingSignatures (needed received : Nat)
  deriving DecidableEq

/-- Why an instruction failed. -/
inductive Failure where
  | disabled (op : Opcode)
  | insufficientArguments (op : Opcode) (required available : Nat)
  | notNumeric (op : Opcode) (found : Instruction)
  | numericOverflow (op : Opcode)
  | indexOutOfBounds (op : Opcode) (index : Int) (size : Nat)
  | verifyFailed (op : Opcode) (check : Check)
  | multisig (op : Opcode) (fault : MultisigFault)
  | stackUnderflow (op : Opcode)
  /-- The opcode was handed to a family that it does not belong to. -/
  | wrongFamily (op : Opcode) (family : Family)
  deriving DecidableEq

private def passedOrFailed (passed : Bool) : String := if passed then "passed" else "failed"

def Check.message (op : Opcode) (passed : Bool) : Check → String
  | .numEqual a b => s!"Performed {op.mnemonic} on <{a}> and <{b}>"
  | .equal a b =>
    let relation := if passed then "is equal to" else "is not equal to"
    s!"Performed {op.mnemonic}; <{a.text}> {relation} <{b.text}>; Pushed <{flag passed}> to stack"
  | .truthy item => s!"Performed {op.mnemonic} on <{item.text}>"
  | .signature sig key =>
    s!"Performed {op.mnemonic}; Checksig on pubkey <{key.text}> {passedOrFailed passed} " ++
      s!"with signature <{sig.text}>"
  | .multisig verified required pubkeys =>
    s!"Performed {op.mnemonic}; {verified} distinct verified pairs, {required} required, " ++
      s!"from {required} signatures and {pubkeys} pubkeys; Checkmultisig {passedOrFailed passed}"

def Change.message : Change → String
  | .counted size => s!"Pushed <{size.toInt}> to stack"
  | .popped a => s!"Popped <{a.text}> from stack"
  | .popped2 a b => s!"Popped <{a.text}> and <{b.text}> from stack"
  | .copied a => s!"Duplicated <{a.text}>, and pushed it to stack"
  | .copied2 a b => s!"Duplicated <{a.text}> and <{b.text}> and pushed them to stack"
  | .copied3 a b c => s!"Duplicated <{a.text}>, <{b.text}>, <{c.text}>, and pushed them to stack"
  | .copiedTrue a => s!"<{a.text}> is true; Duplicated <{a.text}>, and pushed it to stack"
  | .keptFalse a => s!"<{a.text}> is false; Stack is left the same"
  | .copiedAt position a => s!"Duplicated element at position {position}; Pushed <{a.text}> to stack"
  | .takenFrom position a => s!"Popped element at position {position}; Pushed <{a.text}> to stack"
  | .tucked a => s!"Duplicated <{a.text}> and inserted it after the second element"
  | .moved a => s!"Moved <{a.text}> to top of stack"
  | .moved2 a b => s!"Moved <{a.text}> and <{b.text}> to top of stack"
  | .swapped a b => s!"Swapped <{a.text}> and <{b.text}>"
  | .swapped2 a b c d => s!"Swapped <{a.text}> and <{b.text}> with <{c.text}> and <{d.text}>"

/-- A test that is enforced says so; a signature check also says which flag it pushed. -/
def Report.message : Report → String
  | .pushed literal => s!"Pushed <{literal.text}> to stack"
  | .unimplemented op => s!"Logic for {op.name} not implemented yet; {op.name} pushed to stack"
  | .unary op x result => s!"Performed {op.mnemonic} on <{x}>; Pushed <{result}> to stack"
  | .binary op a b result =>
    s!"Performed {op.mnemonic} on <{a}> and <{b}>; Pushed <{result}> to stack"
  | .within x lo hi inside =>
    let relation := if inside then "is within range" else "is NOT within range"
    s!"<{x}> {relation} [{lo}, {hi}); Pushed <{flag inside}> to stack"
  | .rearranged op change => s!"Performed {op.mnemonic}; {change.message}"
  | .tested op check passed enforced =>
    let verified := if enforced then "; Verify passed" else ""
    let pushed := s!"; Pushed <{flag passed}> to stack"
    match check with
    | .numEqual _ _ => check.message op passed ++ verified ++ pushed
    | .equal _ _ | .truthy _ => check.message op passed ++ verified
    | .signature _ _ | .multisig _ _ _ => check.message op passed ++ pushed ++ verified

def MultisigFault.message : MultisigFault → String
  | .tooManyPubkeys needed size =>
    s!"Too many pubkeys required, needed <{needed}>, stack size <{size}>"
  | .missingPubkeys needed received =>
    s!"Not enough pubkeys, needed <{needed}>, received <{received}>"
  | .noSignatureCount => "No signature count on stack"
  | .tooManySignatures needed pubkeys size =>
    s!"Too many signatures required, needed <{needed}> of <{pubkeys}> pubkeys, stack size <{size}>"
  | .missingSignatures needed received =>
    s!"Not enough signatures, needed <{needed}>, received <{received}>"

def Failure.message : Failure → String
  | .disabled op => s!"{op.name} is disabled"
  | .insufficientArguments op required available =>
    s!"{op.name} requires {required} arguments but was given {available}"
  | .notNumeric op found => s!"{op.name} expected a numeric operand but found <{found.text}>"
  | .numericOverflow op => s!"{op.name} overflowed the numeric range"
  | .indexOutOfBounds op index size =>
    s!"Performed {op.mnemonic}; <{index}> out of bounds [0, {size})"
  | .verifyFailed op check => s!"{check.message op false}; Verify failed"
  | .multisig op fault => s!"Performed {op.mnemonic}; {fault.message}; Checkmultisig failed"
  | .stackUnderflow op => s!"{op.name} ran past the bottom of the stack"
  | .wrongFamily op family => s!"{op.name} is not a {family.text} opcode"

end ScriptTrace
