import Mathlib.Algebra.Order.Ring.Int
import ScriptTrace.Proofs.Arity
import ScriptTrace.Proofs.Effect.Numbers

/-!
# Exact arithmetic

What the arithmetic opcodes on one and two numbers compute, said with the integers alone: `Opcode.result?` is their table, the topmost operand first. An opcode first takes its operands, and the first one that is not a number ends it. What it does then is a matter of the numbers only. The result in the table is pushed if a literal can have it, and else the opcode fails with its operands gone; nothing wraps around. One opcode enforces its test, and fails in a way of its own if the test does.
-/

namespace ScriptTrace

open Stack (ofList)

open StackM

/-- What an arithmetic opcode makes of its operands, the top of the stack first. -/
def Opcode.result? : Opcode → List Int → Option Int
  | .add1, [a] => some (a + 1)
  | .sub1, [a] => some (a - 1)
  | .negate, [a] => some (-a)
  | .abs, [a] => some |a|
  | .not, [a] => some (if a = 0 then 1 else 0)
  | .notEqual0, [a] => some (if a ≠ 0 then 1 else 0)
  | .add, [a, b] => some (a + b)
  | .sub, [a, b] => some (a - b)
  | .boolAnd, [a, b] => some (if a ≠ 0 ∧ b ≠ 0 then 1 else 0)
  | .boolOr, [a, b] => some (if a ≠ 0 ∨ b ≠ 0 then 1 else 0)
  | .numEqual, [a, b] | .numEqualVerify, [a, b] => some (if a = b then 1 else 0)
  | .numNotEqual, [a, b] => some (if a ≠ b then 1 else 0)
  | .lessThan, [a, b] => some (if a < b then 1 else 0)
  | .greaterThan, [a, b] => some (if a > b then 1 else 0)
  | .lessThanOrEqual, [a, b] => some (if a ≤ b then 1 else 0)
  | .greaterThanOrEqual, [a, b] => some (if a ≥ b then 1 else 0)
  | .min, [a, b] => some (Min.min a b)
  | .max, [a, b] => some (Max.max a b)
  | _, _ => none

theorem Opcode.result?_unary {op : Opcode} {f : Unary} (hop : op.operation? = some (.unary f))
    (a : Int) : op.result? [a] = some (f.eval a) := by
  cases op <;> cases hop
  case abs => exact congrArg some (Int.abs_eq_natAbs a)
  all_goals simp [result?, Unary.eval, flag]

theorem Opcode.result?_binary {op : Opcode} {f : Binary} (hop : op.operation? = some (.binary f))
    (a b : Int) : op.result? [a, b] = some (f.eval a b) := by
  cases op <;> cases hop <;> simp [result?, Binary.eval, flag]

/-- The table has a row for the opcodes of the two families and no other, and the row is for as many numbers as the catalog asks for. -/
theorem Opcode.exists_result?_iff (op : Opcode) (numbers : List Int) :
    (∃ r, op.result? numbers = some r) ↔
      (op.family? = some .unaryArithmetic ∨ op.family? = some .binaryArithmetic) ∧
        numbers.length = op.argCount := by
  refine ⟨fun ⟨r, hr⟩ => ?_, fun ⟨hfamily, hlength⟩ => ?_⟩
  · revert hr
    fun_cases result? op numbers
    case case20 => nofun
    all_goals
      intro _
      exact ⟨by decide, rfl⟩
  · obtain ⟨o, ho, hof⟩ : ∃ o, op.operation? = some o ∧
        (o.family = .unaryArithmetic ∨ o.family = .binaryArithmetic) := by
      rcases hfamily with hfamily | hfamily <;>
        obtain ⟨o, ho, hof⟩ := exists_operation_of_family? hfamily
      · exact ⟨o, ho, .inl hof⟩
      · exact ⟨o, ho, .inr hof⟩
    rw [argCount_of_operation? ho] at hlength
    cases o with
    | unary f =>
        obtain ⟨a, rfl⟩ := List.length_eq_one_iff.mp hlength
        exact ⟨_, result?_unary ho a⟩
    | binary f =>
        obtain ⟨a, b, rfl⟩ := List.length_eq_two.mp hlength
        exact ⟨_, result?_binary ho a b⟩
    | numEqualVerify =>
        obtain ⟨a, b, rfl⟩ := List.length_eq_two.mp hlength
        obtain rfl : op = .numEqualVerify := eq_of_operation?_eq ho rfl
        exact ⟨_, rfl⟩
    | _ => simp [Operation.family] at hof

/-! ### Outcomes -/

/-- The integer is pushed, as a literal on what is left, if and only if a literal can have it. Otherwise there is a failure and nothing is pushed. -/
structure PushOutcome (op : Opcode) (r : Int) (rest : List Instruction)
    (outcome : EStateM.Result Failure Stack Report) : Prop where
  ok_iff : (∃ report word, outcome = .ok report (ofList (.int word :: rest)) ∧ word.toInt = r) ↔
    -2 ^ 63 ≤ r ∧ r ≤ 2 ^ 63 - 1
  overflow : ¬ (-2 ^ 63 ≤ r ∧ r ≤ 2 ^ 63 - 1) → outcome = .error (.numericOverflow op) (ofList rest)

/-- What an arithmetic opcode has to come to on its operands, with other items below them. -/
structure ArithmeticOutcome (op : Opcode) (operands rest : List Instruction)
    (outcome : EStateM.Result Failure Stack Report) : Prop where
  /-- The first operand that is not a number is named, and the stack below it is left. -/
  notNumeric : ∀ earlier x later, operands = earlier ++ x :: later →
    (∀ y ∈ earlier, y.value? ≠ none) → x.value? = none →
    outcome = .error (.notNumeric op x) (ofList (later ++ rest))
  /-- On numbers there is a result, and it is pushed unless it is the zero of a test that is enforced. -/
  pushes : ∀ numbers, operands.map Instruction.value? = numbers.map some →
    ∃ r, op.result? numbers = some r ∧
      (¬ (op = .numEqualVerify ∧ r = 0) → PushOutcome op r rest outcome)
  unequal : ∀ a b, op = .numEqualVerify → operands.map Instruction.value? = [some a, some b] → a ≠ b →
    outcome = .error (.verifyFailed op (.numEqual a b)) (ofList rest)

section

variable {op : Opcode} {x y : Instruction} {a b : Int} {rest : List Instruction}

theorem pushOutcome_pushNumber (op : Opcode) (r : Int) (report : Report) (rest : List Instruction) :
    PushOutcome op r rest ((pushNumber op r >>= fun _ => pure report) (ofList rest)) := by
  have hmin : Int64.minValue.toInt = -2 ^ 63 := rfl
  have hmax : Int64.maxValue.toInt = 2 ^ 63 - 1 := rfl
  rw [bind_apply, pushNumber_listed]
  cases h : Instruction.ofInt? r with
  | none =>
      rw [Instruction.ofInt?_eq_none_iff, hmin, hmax] at h
      refine ⟨iff_of_false ?_ h, fun _ => rfl⟩
      rintro ⟨report, word, houtcome, _⟩
      cases houtcome
  | some literal =>
      obtain ⟨hrange, hliteral⟩ := Option.ite_none_right_eq_some.mp h
      cases hliteral
      have hvalue : (Int64.ofInt r).toInt = r := Option.some.inj (Instruction.value?_of_ofInt? h)
      rw [hmin, hmax] at hrange
      exact ⟨iff_of_true ⟨report, _, rfl, hvalue⟩ hrange, fun hnot => absurd hrange hnot⟩

/-! ### The opcodes -/

namespace Effect

theorem unary_outcome {f : Unary} (hop : op.operation? = some (.unary f)) :
    ArithmeticOutcome op [x] rest (unary op (ofList (x :: rest))) where
  notNumeric earlier x' later hsplit _ hnone := by
    obtain ⟨rfl, rfl, rfl⟩ : earlier = [] ∧ x' = x ∧ later = [] := by
      cases earlier <;> simp_all
    rw [unary, bind_apply, popNumber_of_none hnone]
    rfl
  pushes numbers hnumbers := by
    rcases numbers with _ | ⟨a, _ | ⟨b, numbers⟩⟩ <;> simp at hnumbers
    refine ⟨_, Opcode.result?_unary hop a, fun _ => ?_⟩
    rw [unary, bind_apply, popNumber_of_some hnumbers, hop]
    exact pushOutcome_pushNumber op _ _ rest
  unequal a b hverify := by
    subst hverify
    cases hop

theorem popTwo_of_some {f : Int → Int → StackM Report} (hx : x.value? = some a)
    (hy : y.value? = some b) :
    (do
      let a ← popNumber op
      let b ← popNumber op
      f a b) (ofList (x :: y :: rest)) = f a b (ofList rest) := by
  rw [bind_apply, popNumber_of_some hx]
  dsimp only
  rw [bind_apply, popNumber_of_some hy]

/-- Of two operands either the first one is not a number and the second one is not looked at, or only the second one is not. -/
theorem popTwo_of_none {f : Int → Int → StackM Report} {earlier later : List Instruction}
    {x' : Instruction} (hsplit : [x, y] = earlier ++ x' :: later)
    (hearlier : ∀ y ∈ earlier, y.value? ≠ none) (hnone : x'.value? = none) :
    (do
      let a ← popNumber op
      let b ← popNumber op
      f a b) (ofList (x :: y :: rest)) = .error (.notNumeric op x') (ofList (later ++ rest)) := by
  -- At most one operand comes before the one that is named.
  rcases earlier with _ | ⟨z, _ | ⟨w, earlier⟩⟩
  · cases hsplit
    rw [bind_apply, popNumber_of_none hnone]
    rfl
  · cases hsplit
    obtain ⟨a, ha⟩ := Option.ne_none_iff_exists'.mp (hearlier x List.mem_cons_self)
    rw [bind_apply, popNumber_of_some ha]
    dsimp only
    rw [bind_apply, popNumber_of_none hnone]
    rfl
  · simp at hsplit

theorem binary_outcome {f : Binary} (hop : op.operation? = some (.binary f)) :
    ArithmeticOutcome op [x, y] rest (binary op (ofList (x :: y :: rest))) where
  notNumeric _ _ _ := popTwo_of_none
  pushes numbers hnumbers := by
    rcases numbers with _ | ⟨a, _ | ⟨b, _ | ⟨c, numbers⟩⟩⟩ <;> simp at hnumbers
    refine ⟨_, Opcode.result?_binary hop a b, fun _ => ?_⟩
    rw [binary, popTwo_of_some hnumbers.1 hnumbers.2, hop]
    exact pushOutcome_pushNumber op _ _ rest
  unequal a b hverify := by
    subst hverify
    cases hop

theorem binary_numEqualVerify (hx : x.value? = some a) (hy : y.value? = some b) :
    binary .numEqualVerify (ofList (x :: y :: rest)) =
      if a = b then .ok (.tested .numEqualVerify (.numEqual a b) true true) (ofList (.int 1 :: rest))
      else .error (.verifyFailed .numEqualVerify (.numEqual a b)) (ofList rest) := by
  rw [binary, popTwo_of_some hx hy]
  by_cases hab : a = b
  · simp [Opcode.operation?, hab, Instruction.ofBool]
  · simp [Opcode.operation?, hab]

theorem numEqualVerify_outcome :
    ArithmeticOutcome .numEqualVerify [x, y] rest
      (binary .numEqualVerify (ofList (x :: y :: rest))) where
  notNumeric _ _ _ := popTwo_of_none
  pushes numbers hnumbers := by
    rcases numbers with _ | ⟨a, _ | ⟨b, _ | ⟨c, numbers⟩⟩⟩ <;> simp at hnumbers
    refine ⟨_, rfl, ?_⟩
    rw [binary_numEqualVerify hnumbers.1 hnumbers.2]
    by_cases hab : a = b
    · rw [if_pos hab, if_pos hab]
      intro _
      exact ⟨iff_of_true ⟨_, 1, rfl, rfl⟩ (by decide), fun hnot => absurd (by decide) hnot⟩
    · simp [hab]
  unequal a b _ hnumbers hab := by
    simp only [List.map_cons, List.map_nil, List.cons.injEq, and_true] at hnumbers
    rw [binary_numEqualVerify hnumbers.1 hnumbers.2, if_neg hab]

end Effect

end

/-- **Arithmetic is exact.** The opcodes with a result in the table are those of arithmetic on one or on two numbers. Let one of them find its operands on the stack. If one of these is not a number, it fails and names the first such, the topmost first. Otherwise it pushes what `Opcode.result?` says, with the items below untouched, if and only if that is in the range of signed 64-bit words, and else fails with exactly the operands gone. Only an enforced comparison of unequal numbers fails for another reason, with both of them gone. -/
theorem arithmetic_exact (v : Verifier) :
    (∀ (op : Opcode) (numbers : List Int), (∃ r, op.result? numbers = some r) ↔
      (op.family? = some .unaryArithmetic ∨ op.family? = some .binaryArithmetic) ∧
        numbers.length = op.argCount) ∧
    ∀ (op : Opcode) (family : Family), op.family? = some family →
      family = .unaryArithmetic ∨ family = .binaryArithmetic →
      ∀ operands rest : List Instruction, operands.length = op.argCount →
        ArithmeticOutcome op operands rest (family.run v op (ofList (operands ++ rest))) ∧
          op.execute v (ofList (operands ++ rest)) = family.run v op (ofList (operands ++ rest)) := by
  refine ⟨Opcode.exists_result?_iff, fun op family hop hfamily operands rest hoperands => ?_⟩
  obtain ⟨o, ho, rfl⟩ := Opcode.exists_operation_of_family? hop
  have hsize : op.argCount ≤ (ofList (operands ++ rest)).size := by
    rw [Stack.size_ofList, List.length_append]
    omega
  refine ⟨?_, Opcode.execute_of_operation? ho hsize⟩
  rw [Opcode.argCount_of_operation? ho] at hoperands
  cases o with
  | unary f =>
      obtain ⟨x, rfl⟩ := List.length_eq_one_iff.mp hoperands
      exact Effect.unary_outcome ho
  | binary f =>
      obtain ⟨x, y, rfl⟩ := List.length_eq_two.mp hoperands
      exact Effect.binary_outcome ho
  | numEqualVerify =>
      obtain ⟨x, y, rfl⟩ := List.length_eq_two.mp hoperands
      obtain rfl : op = .numEqualVerify := Opcode.eq_of_operation?_eq ho rfl
      exact Effect.numEqualVerify_outcome
  | _ => simp [Operation.family] at hfamily

/-- The least literal has no negative, but it is a difference; and of two operands the lower one can be the one that is not a number. -/
theorem arithmetic_exact_limits :
    Effect.unary .negate (ofList [.int Int64.minValue, .int 9]) =
      .error (.numericOverflow .negate) (ofList [.int 9]) ∧
    (∃ report word, Effect.binary .sub (ofList [.op .num1Negate, .int Int64.maxValue, .int 9]) =
      .ok report (ofList [.int word, .int 9]) ∧ word.toInt = -2 ^ 63) ∧
    Effect.binary .add (ofList [.op .num1, .marker "1", .int 9]) =
      .error (.notNumeric .add (.marker "1")) (ofList [.int 9]) := by
  obtain ⟨_, hexact⟩ := arithmetic_exact .placeholder
  refine ⟨?_, ?_, ?_⟩
  · obtain ⟨hnegate, _⟩ := hexact .negate _ rfl (.inl rfl) [.int Int64.minValue] [.int 9] rfl
    obtain ⟨r, hr, hpushes⟩ := hnegate.pushes [-2 ^ 63] rfl
    obtain rfl := Option.some.inj hr
    exact (hpushes (by decide)).overflow (by decide)
  · obtain ⟨hsub, _⟩ :=
      hexact .sub _ rfl (.inr rfl) [.op .num1Negate, .int Int64.maxValue] [.int 9] rfl
    obtain ⟨r, hr, hpushes⟩ := hsub.pushes [-1, 2 ^ 63 - 1] rfl
    obtain rfl := Option.some.inj hr
    exact (hpushes (by decide)).ok_iff.mpr (by decide)
  · obtain ⟨hadd, _⟩ := hexact .add _ rfl (.inr rfl) [.op .num1, .marker "1"] [.int 9] rfl
    exact hadd.notNumeric [.op .num1] (.marker "1") [] rfl (by decide) rfl

end ScriptTrace
