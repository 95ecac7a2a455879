/-!
# Decimal numerals

Numerals are read from ASCII digits, with leading zeros allowed. An integer may carry a sign.
-/

namespace ScriptTrace.Text

def readNat? (digits : List Char) : Option Nat :=
  if !digits.isEmpty && digits.all Char.isDigit then some (Nat.ofDigitChars 10 digits 0) else none

def readInt? : List Char → Option Int
  | '-' :: digits => (readNat? digits).map fun n => -(n : Int)
  | '+' :: digits => (readNat? digits).map fun n => (n : Int)
  | digits => (readNat? digits).map fun n => (n : Int)

/-- An unsigned 64-bit word, with or without a plus sign. -/
def readWord? (text : List Char) : Option Nat :=
  let digits := match text with
    | '+' :: digits => digits
    | digits => digits
  (readNat? digits).filter (· < UInt64.size)

/-- Nothing, or an `e` of either case with digits after it. -/
def isExponent : List Char → Bool
  | [] => true
  | 'e' :: digits | 'E' :: digits => !digits.isEmpty && digits.all Char.isDigit
  | _ => false

/-- Nothing, or a point, any number of digits, and an exponent. -/
def isFraction : List Char → Bool
  | '.' :: rest => isExponent (rest.dropWhile Char.isDigit)
  | rest => isExponent rest

/-- Digits, then a fraction and an exponent if there are any, as in `12`, `1.5` and `2.E10`. -/
def isUnsignedNumber (text : List Char) : Bool :=
  text.head?.any Char.isDigit && isFraction (text.dropWhile Char.isDigit)

end ScriptTrace.Text
