import ScriptTrace.Opcode.Basic

/-!
# Operations

What an opcode does, apart from how it is spelled. Operations come in seven families, and the arithmetic ones are functions on the integers. Two tables say where an opcode belongs: `Opcode.family?` looks it up in the lists of the families, which decides who carries it out, and `Opcode.operation?` is what the families then go by. An opcode in no list is pushed to the stack unread. Nothing in the two definitions makes the tables agree; `Opcode.family?_eq_map_operation?` says that they do.
-/

namespace ScriptTrace

/-- One for true, zero for false. -/
def flag (b : Bool) : Int := if b then 1 else 0

/-- Operations on one number. -/
inductive Unary where
  | increment | decrement | negate | abs | isZero | isNonzero
  deriving DecidableEq

def Unary.eval : Unary → Int → Int
  | .increment, x => x + 1
  | .decrement, x => x - 1
  | .negate, x => -x
  | .abs, x => x.natAbs
  | .isZero, x => flag (x == 0)
  | .isNonzero, x => flag (x != 0)

/-- Operations on two numbers, the first of which is the top of the stack. -/
inductive Binary where
  | add | sub | and | or | eq | ne | lt | gt | le | ge | min | max
  deriving DecidableEq

def Binary.eval : Binary → Int → Int → Int
  | .add, a, b => a + b
  | .sub, a, b => a - b
  | .and, a, b => flag (a != 0 && b != 0)
  | .or, a, b => flag (a != 0 || b != 0)
  | .eq, a, b => flag (a == b)
  | .ne, a, b => flag (a != b)
  | .lt, a, b => flag (a < b)
  | .gt, a, b => flag (b < a)
  | .le, a, b => flag (a ≤ b)
  | .ge, a, b => flag (b ≤ a)
  | .min, a, b => Min.min a b
  | .max, a, b => Max.max a b

/-- Operations that move, copy and discard items without looking at more than a count. -/
inductive Rearrangement where
  | depth | dup | drop | drop2 | dup2 | over2 | rot2 | swap2 | dup3 | ifDup | nip | over | pick | roll
  | rot | swap | tuck
  deriving DecidableEq

/-- An operation. Where it ends in a test, `enforced` tells whether a failing test ends the run. -/
inductive Operation where
  | unary (f : Unary)
  | binary (f : Binary)
  | numEqualVerify
  | within
  | rearrange (r : Rearrangement)
  | equal (enforced : Bool)
  | verify
  | checkSig (enforced : Bool)
  | checkMultisig (enforced : Bool)
  deriving DecidableEq

/-- Operations that are carried out alike. -/
inductive Family where
  | unaryArithmetic | binaryArithmetic | stackManipulation | equality | verify | within | signature
  deriving DecidableEq

def Family.text : Family → String
  | .unaryArithmetic => "unary arithmetic"
  | .binaryArithmetic => "binary arithmetic"
  | .stackManipulation => "stack manipulation"
  | .equality => "equality"
  | .verify => "verify"
  | .within => "within"
  | .signature => "signature"

def Operation.family : Operation → Family
  | .unary _ => .unaryArithmetic
  | .binary _ | .numEqualVerify => .binaryArithmetic
  | .within => .within
  | .rearrange _ => .stackManipulation
  | .equal _ => .equality
  | .verify => .verify
  | .checkSig _ | .checkMultisig _ => .signature

namespace Opcode

/-! ### The lists of the families -/

def unaryArithmetic : List Opcode := [.add1, .sub1, .negate, .abs, .not, .notEqual0]

def binaryArithmetic : List Opcode :=
  [.add, .sub, .boolAnd, .boolOr, .numEqual, .numEqualVerify, .numNotEqual, .lessThan, .greaterThan,
    .lessThanOrEqual, .greaterThanOrEqual, .min, .max]

def stackManipulation : List Opcode :=
  [.depth, .dup, .drop, .drop2, .dup2, .over2, .rot2, .swap2, .dup3, .ifDup, .nip, .over, .pick, .roll,
    .rot, .swap, .tuck]

def equality : List Opcode := [.equal, .equalVerify]

def signature : List Opcode := [.checkSig, .checkSigVerify, .checkMultisig, .checkMultisigVerify]

/-- The family that carries out an opcode. Two families have a single opcode each and no list. -/
def family? (op : Opcode) : Option Family :=
  if unaryArithmetic.contains op then some .unaryArithmetic
  else if binaryArithmetic.contains op then some .binaryArithmetic
  else if stackManipulation.contains op then some .stackManipulation
  else if equality.contains op then some .equality
  else if signature.contains op then some .signature
  else match op with
    | .verify => some .verify
    | .within => some .within
    | _ => none

/-! ### The operations -/

/-- What the families do with an opcode that they are given. -/
def operation? : Opcode → Option Operation
  | .add1 => some (.unary .increment)
  | .sub1 => some (.unary .decrement)
  | .negate => some (.unary .negate)
  | .abs => some (.unary .abs)
  | .not => some (.unary .isZero)
  | .notEqual0 => some (.unary .isNonzero)
  | .add => some (.binary .add)
  | .sub => some (.binary .sub)
  | .boolAnd => some (.binary .and)
  | .boolOr => some (.binary .or)
  | .numEqual => some (.binary .eq)
  | .numEqualVerify => some .numEqualVerify
  | .numNotEqual => some (.binary .ne)
  | .lessThan => some (.binary .lt)
  | .greaterThan => some (.binary .gt)
  | .lessThanOrEqual => some (.binary .le)
  | .greaterThanOrEqual => some (.binary .ge)
  | .min => some (.binary .min)
  | .max => some (.binary .max)
  | .within => some .within
  | .depth => some (.rearrange .depth)
  | .dup => some (.rearrange .dup)
  | .drop => some (.rearrange .drop)
  | .drop2 => some (.rearrange .drop2)
  | .dup2 => some (.rearrange .dup2)
  | .over2 => some (.rearrange .over2)
  | .rot2 => some (.rearrange .rot2)
  | .swap2 => some (.rearrange .swap2)
  | .dup3 => some (.rearrange .dup3)
  | .ifDup => some (.rearrange .ifDup)
  | .nip => some (.rearrange .nip)
  | .over => some (.rearrange .over)
  | .pick => some (.rearrange .pick)
  | .roll => some (.rearrange .roll)
  | .rot => some (.rearrange .rot)
  | .swap => some (.rearrange .swap)
  | .tuck => some (.rearrange .tuck)
  | .equal => some (.equal false)
  | .equalVerify => some (.equal true)
  | .verify => some .verify
  | .checkSig => some (.checkSig false)
  | .checkSigVerify => some (.checkSig true)
  | .checkMultisig => some (.checkMultisig false)
  | .checkMultisigVerify => some (.checkMultisig true)
  | _ => none

/-- The lists of the families and the operations agree on every opcode: no family is given an opcode that it has no operation for, and none with an operation is left out. -/
theorem family?_eq_map_operation? (op : Opcode) : op.family? = op.operation?.map Operation.family := by
  cases op <;> rfl

theorem family?_of_operation? {op : Opcode} {o : Operation} (h : op.operation? = some o) :
    op.family? = some o.family := by
  rw [family?_eq_map_operation?, h, Option.map_some]

theorem family?_of_operation?_none {op : Opcode} (h : op.operation? = none) : op.family? = none := by
  rw [family?_eq_map_operation?, h, Option.map_none]

theorem exists_operation_of_family? {op : Opcode} {family : Family} (h : op.family? = some family) :
    ∃ o, op.operation? = some o ∧ o.family = family := by
  rwa [family?_eq_map_operation?, Option.map_eq_some_iff] at h

/-- No two opcodes have the same operation. -/
theorem eq_of_operation?_eq {op other : Opcode} {o : Operation} (h : op.operation? = some o)
    (hother : other.operation? = some o) : op = other := by
  have hall : ∀ a ∈ all, a.operation?.isSome → ∀ b ∈ all, a.operation? = b.operation? → a = b := by
    decide +kernel
  exact hall op op.mem_all (Option.isSome_of_eq_some h) other other.mem_all (h.trans hother.symm)

/-- No disabled opcode has an operation. -/
theorem operation?_of_disabled {op : Opcode} (h : op.disabled = true) : op.operation? = none := by
  cases op <;> first | rfl | cases h

end Opcode

end ScriptTrace
