/-!
# Opcodes

The 103 opcodes of Bitcoin Script that have a name, in catalog order, and one row of facts about each: its mnemonic, the category it is listed under, how many items it needs on the stack, and whether it is disabled. A name is `OP_` followed by the mnemonic, and `Opcode.ofName?` reads names back.
-/

namespace ScriptTrace

/-- An opcode. The order of the constructors is the order of the catalog. -/
inductive Opcode where
  | num0 | pushData1 | pushData2 | pushData4 | num1Negate | reserved | num1 | num2 | num3 | num4
  | num5 | num6 | num7 | num8 | num9 | num10 | num11 | num12 | num13 | num14 | num15 | num16 | nop
  | ver | opIf | opNotIf | opVerIf | opVerNotIf | opElse | opEndIf | verify | opReturn | toAltStack
  | fromAltStack | drop2 | dup2 | dup3 | over2 | rot2 | swap2 | ifDup | depth | drop | dup | nip
  | over | pick | roll | rot | swap | tuck | cat | substr | left | right | size | invert | and | or
  | xor | equal | equalVerify | reserved1 | reserved2 | add1 | sub1 | mul2 | div2 | negate | abs
  | not | notEqual0 | add | sub | mul | div | mod | lshift | rshift | boolAnd | boolOr | numEqual
  | numEqualVerify | numNotEqual | lessThan | greaterThan | lessThanOrEqual | greaterThanOrEqual
  | min | max | within | ripemd160 | sha1 | sha256 | hash160 | hash256 | codeSeparator | checkSig
  | checkSigVerify | checkMultisig | checkMultisigVerify | checkLockTimeVerify | checkSequenceVerify
  deriving DecidableEq

/-- The headings of the catalog. -/
inductive Category where
  | constants | flowControl | stack | splice | bitwiseLogic | arithmetic | crypto | lockTime
  deriving DecidableEq

def Category.text : Category → String
  | .constants => "constants"
  | .flowControl => "flow-control"
  | .stack => "stack"
  | .splice => "splice"
  | .bitwiseLogic => "bitwise-logic"
  | .arithmetic => "arithmetic"
  | .crypto => "crypto"
  | .lockTime => "locktime"

namespace Opcode

/-- A row of the catalog. -/
structure Entry where
  mnemonic : String
  category : Category
  /-- The least stack size with which the opcode is executed. -/
  argCount : Nat
  disabled : Bool

def entry : Opcode → Entry
  | .num0 => ⟨"0", .constants, 0, false⟩
  | .pushData1 => ⟨"PUSHDATA1", .constants, 0, false⟩
  | .pushData2 => ⟨"PUSHDATA2", .constants, 0, false⟩
  | .pushData4 => ⟨"PUSHDATA4", .constants, 0, false⟩
  | .num1Negate => ⟨"1NEGATE", .constants, 0, false⟩
  | .reserved => ⟨"RESERVED", .constants, 0, false⟩
  | .num1 => ⟨"1", .constants, 0, false⟩
  | .num2 => ⟨"2", .constants, 0, false⟩
  | .num3 => ⟨"3", .constants, 0, false⟩
  | .num4 => ⟨"4", .constants, 0, false⟩
  | .num5 => ⟨"5", .constants, 0, false⟩
  | .num6 => ⟨"6", .constants, 0, false⟩
  | .num7 => ⟨"7", .constants, 0, false⟩
  | .num8 => ⟨"8", .constants, 0, false⟩
  | .num9 => ⟨"9", .constants, 0, false⟩
  | .num10 => ⟨"10", .constants, 0, false⟩
  | .num11 => ⟨"11", .constants, 0, false⟩
  | .num12 => ⟨"12", .constants, 0, false⟩
  | .num13 => ⟨"13", .constants, 0, false⟩
  | .num14 => ⟨"14", .constants, 0, false⟩
  | .num15 => ⟨"15", .constants, 0, false⟩
  | .num16 => ⟨"16", .constants, 0, false⟩
  | .nop => ⟨"NOP", .flowControl, 0, false⟩
  | .ver => ⟨"VER", .flowControl, 0, false⟩
  | .opIf => ⟨"IF", .flowControl, 1, false⟩
  | .opNotIf => ⟨"NOTIF", .flowControl, 1, false⟩
  | .opVerIf => ⟨"VERIF", .flowControl, 0, false⟩
  | .opVerNotIf => ⟨"VERNOTIF", .flowControl, 0, false⟩
  | .opElse => ⟨"ELSE", .flowControl, 0, false⟩
  | .opEndIf => ⟨"ENDIF", .flowControl, 0, false⟩
  | .verify => ⟨"VERIFY", .flowControl, 1, false⟩
  | .opReturn => ⟨"RETURN", .flowControl, 0, false⟩
  | .toAltStack => ⟨"TOALTSTACK", .stack, 1, false⟩
  | .fromAltStack => ⟨"FROMALTSTACK", .stack, 0, false⟩
  | .drop2 => ⟨"2DROP", .stack, 2, false⟩
  | .dup2 => ⟨"2DUP", .stack, 2, false⟩
  | .dup3 => ⟨"3DUP", .stack, 3, false⟩
  | .over2 => ⟨"2OVER", .stack, 4, false⟩
  | .rot2 => ⟨"2ROT", .stack, 6, false⟩
  | .swap2 => ⟨"2SWAP", .stack, 4, false⟩
  | .ifDup => ⟨"IFDUP", .stack, 1, false⟩
  | .depth => ⟨"DEPTH", .stack, 0, false⟩
  | .drop => ⟨"DROP", .stack, 1, false⟩
  | .dup => ⟨"DUP", .stack, 1, false⟩
  | .nip => ⟨"NIP", .stack, 2, false⟩
  | .over => ⟨"OVER", .stack, 2, false⟩
  | .pick => ⟨"PICK", .stack, 1, false⟩
  | .roll => ⟨"ROLL", .stack, 1, false⟩
  | .rot => ⟨"ROT", .stack, 3, false⟩
  | .swap => ⟨"SWAP", .stack, 2, false⟩
  | .tuck => ⟨"TUCK", .stack, 2, false⟩
  | .cat => ⟨"CAT", .splice, 2, true⟩
  | .substr => ⟨"SUBSTR", .splice, 3, true⟩
  | .left => ⟨"LEFT", .splice, 2, true⟩
  | .right => ⟨"RIGHT", .splice, 2, true⟩
  | .size => ⟨"SIZE", .splice, 1, false⟩
  | .invert => ⟨"INVERT", .bitwiseLogic, 1, true⟩
  | .and => ⟨"AND", .bitwiseLogic, 2, true⟩
  | .or => ⟨"OR", .bitwiseLogic, 2, true⟩
  | .xor => ⟨"XOR", .bitwiseLogic, 2, true⟩
  | .equal => ⟨"EQUAL", .bitwiseLogic, 2, false⟩
  | .equalVerify => ⟨"EQUALVERIFY", .bitwiseLogic, 2, false⟩
  | .reserved1 => ⟨"RESERVED1", .arithmetic, 0, false⟩
  | .reserved2 => ⟨"RESERVED2", .arithmetic, 0, false⟩
  | .add1 => ⟨"1ADD", .arithmetic, 1, false⟩
  | .sub1 => ⟨"1SUB", .arithmetic, 1, false⟩
  | .mul2 => ⟨"2MUL", .arithmetic, 1, true⟩
  | .div2 => ⟨"2DIV", .arithmetic, 1, true⟩
  | .negate => ⟨"NEGATE", .arithmetic, 1, false⟩
  | .abs => ⟨"ABS", .arithmetic, 1, false⟩
  | .not => ⟨"NOT", .arithmetic, 1, false⟩
  | .notEqual0 => ⟨"0NOTEQUAL", .arithmetic, 1, false⟩
  | .add => ⟨"ADD", .arithmetic, 2, false⟩
  | .sub => ⟨"SUB", .arithmetic, 2, false⟩
  | .mul => ⟨"MUL", .arithmetic, 2, true⟩
  | .div => ⟨"DIV", .arithmetic, 2, true⟩
  | .mod => ⟨"MOD", .arithmetic, 2, true⟩
  | .lshift => ⟨"LSHIFT", .arithmetic, 2, true⟩
  | .rshift => ⟨"RSHIFT", .arithmetic, 2, true⟩
  | .boolAnd => ⟨"BOOLAND", .arithmetic, 2, false⟩
  | .boolOr => ⟨"BOOLOR", .arithmetic, 2, false⟩
  | .numEqual => ⟨"NUMEQUAL", .arithmetic, 2, false⟩
  | .numEqualVerify => ⟨"NUMEQUALVERIFY", .arithmetic, 2, false⟩
  | .numNotEqual => ⟨"NUMNOTEQUAL", .arithmetic, 2, false⟩
  | .lessThan => ⟨"LESSTHAN", .arithmetic, 2, false⟩
  | .greaterThan => ⟨"GREATERTHAN", .arithmetic, 2, false⟩
  | .lessThanOrEqual => ⟨"LESSTHANOREQUAL", .arithmetic, 2, false⟩
  | .greaterThanOrEqual => ⟨"GREATERTHANOREQUAL", .arithmetic, 2, false⟩
  | .min => ⟨"MIN", .arithmetic, 2, false⟩
  | .max => ⟨"MAX", .arithmetic, 2, false⟩
  | .within => ⟨"WITHIN", .arithmetic, 3, false⟩
  | .ripemd160 => ⟨"RIPEMD160", .crypto, 1, false⟩
  | .sha1 => ⟨"SHA1", .crypto, 1, false⟩
  | .sha256 => ⟨"SHA256", .crypto, 1, false⟩
  | .hash160 => ⟨"HASH160", .crypto, 1, false⟩
  | .hash256 => ⟨"HASH256", .crypto, 1, false⟩
  | .codeSeparator => ⟨"CODESEPARATOR", .crypto, 0, false⟩
  | .checkSig => ⟨"CHECKSIG", .crypto, 2, false⟩
  | .checkSigVerify => ⟨"CHECKSIGVERIFY", .crypto, 2, false⟩
  | .checkMultisig => ⟨"CHECKMULTISIG", .crypto, 1, false⟩
  | .checkMultisigVerify => ⟨"CHECKMULTISIGVERIFY", .crypto, 1, false⟩
  | .checkLockTimeVerify => ⟨"CHECKLOCKTIMEVERIFY", .lockTime, 1, false⟩
  | .checkSequenceVerify => ⟨"CHECKSEQUENCEVERIFY", .lockTime, 1, false⟩

def mnemonic (op : Opcode) : String := op.entry.mnemonic

def name (op : Opcode) : String := "OP_" ++ op.mnemonic

def category (op : Opcode) : Category := op.entry.category

def argCount (op : Opcode) : Nat := op.entry.argCount

def disabled (op : Opcode) : Bool := op.entry.disabled

/-- The position in the catalog. -/
def index (op : Opcode) : Nat := op.ctorIdx

/-- Every opcode, in catalog order. -/
def all : List Opcode := [
  .num0, .pushData1, .pushData2, .pushData4, .num1Negate, .reserved, .num1, .num2, .num3, .num4,
  .num5, .num6, .num7, .num8, .num9, .num10, .num11, .num12, .num13, .num14, .num15, .num16, .nop,
  .ver, .opIf, .opNotIf, .opVerIf, .opVerNotIf, .opElse, .opEndIf, .verify, .opReturn, .toAltStack,
  .fromAltStack, .drop2, .dup2, .dup3, .over2, .rot2, .swap2, .ifDup, .depth, .drop, .dup, .nip,
  .over, .pick, .roll, .rot, .swap, .tuck, .cat, .substr, .left, .right, .size, .invert, .and, .or,
  .xor, .equal, .equalVerify, .reserved1, .reserved2, .add1, .sub1, .mul2, .div2, .negate, .abs,
  .not, .notEqual0, .add, .sub, .mul, .div, .mod, .lshift, .rshift, .boolAnd, .boolOr, .numEqual,
  .numEqualVerify, .numNotEqual, .lessThan, .greaterThan, .lessThanOrEqual, .greaterThanOrEqual,
  .min, .max, .within, .ripemd160, .sha1, .sha256, .hash160, .hash256, .codeSeparator, .checkSig,
  .checkSigVerify, .checkMultisig, .checkMultisigVerify, .checkLockTimeVerify, .checkSequenceVerify]

def ofName? (name : String) : Option Opcode := all.find? (·.name == name)

/-- The integer an opcode stands for: zero, minus one, and one to sixteen. -/
def smallInt? : Opcode → Option Int64
  | .num0 => some 0
  | .num1Negate => some (-1)
  | .num1 => some 1
  | .num2 => some 2
  | .num3 => some 3
  | .num4 => some 4
  | .num5 => some 5
  | .num6 => some 6
  | .num7 => some 7
  | .num8 => some 8
  | .num9 => some 9
  | .num10 => some 10
  | .num11 => some 11
  | .num12 => some 12
  | .num13 => some 13
  | .num14 => some 14
  | .num15 => some 15
  | .num16 => some 16
  | _ => none

theorem mem_all (op : Opcode) : op ∈ all := by
  cases op <;> decide

end Opcode

end ScriptTrace
