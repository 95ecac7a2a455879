import Mathlib.Data.List.Basic
import ScriptTrace.Proofs.Effect.Listed

/-!
# Numbers on the stack

Literals and the opcodes that stand for small integers count as numbers, and all of these are in the range of literals. A result goes back onto the stack as a literal if it is in that range too. `Instruction.value?` reads an item as an integer, and `Instruction.ofInt?` writes one; what was written is read back, and writing fails exactly outside the range.
-/

namespace ScriptTrace

open Stack (ofList)

theorem flag_beq_zero (b : Bool) : (flag b == 0) = !b := by
  cases b <;> rfl

theorem flag_bne_zero (b : Bool) : (flag b != 0) = b := by
  cases b <;> rfl

namespace Instruction

/-- The integer that an instruction counts as in arithmetic. -/
def value? (i : Instruction) : Option Int := i.number?.map Int64.toInt

variable {i : Instruction} {n : Int}

theorem value?_int (word : Int64) : (int word).value? = some word.toInt := rfl

theorem value?_ofBool (b : Bool) : (ofBool b).value? = some (flag b) := by
  cases b <;> rfl

theorem ofInt?_eq_none_iff :
    ofInt? n = none ↔ ¬ (Int64.minValue.toInt ≤ n ∧ n ≤ Int64.maxValue.toInt) := by
  rw [ofInt?, ite_eq_right_iff]
  constructor
  · intro h hrange
    cases h hrange
  · intro h hrange
    exact absurd hrange h

theorem ofInt?_flag (b : Bool) : ofInt? (flag b) = some (ofBool b) := by
  cases b <;> rfl

/-- A literal counts as the integer it was made from. -/
theorem value?_of_ofInt? (h : ofInt? n = some i) : i.value? = some n := by
  obtain ⟨⟨hmin, hmax⟩, hi⟩ := Option.ite_none_right_eq_some.mp h
  cases hi
  have hlt : n < 2 ^ 63 := Int.lt_of_le_of_lt hmax (by decide)
  rw [value?_int, Int64.toInt_ofInt_of_le hmin hlt]

end Instruction

namespace StackM

variable {op : Opcode} {x : Instruction} {n : Int} {rest : List Instruction}

theorem popNumber_of_some (hx : x.value? = some n) :
    popNumber op (ofList (x :: rest)) = .ok n (ofList rest) := by
  obtain ⟨word, hword, rfl⟩ := Option.map_eq_some_iff.mp hx
  rw [popNumber_cons, hword]

theorem popNumber_of_none (hx : x.value? = none) :
    popNumber op (ofList (x :: rest)) = .error (.notNumeric op x) (ofList rest) := by
  rw [popNumber_cons, Option.map_eq_none_iff.mp hx]

end StackM

end ScriptTrace
