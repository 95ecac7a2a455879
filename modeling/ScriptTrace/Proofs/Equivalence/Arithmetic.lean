import Mathlib.Data.List.Basic
import ScriptTrace.Proofs.Equivalence.Rearrange

/-!
# Arithmetic spelled out

Six operations on two numbers, together with the rearrangements, do the work of all other arithmetic but the minimum: `Opcode.arithmeticExpansion?` spells out twelve opcodes with them and with each other. Most of the laws are of two kinds. An operation on one number is an operation on two with the left one fixed, and a test is the negation of the opposite test. An opcode and its expansion refuse the same operands, whichever of them is not a number, and overflow on the same numbers; so they are equivalent on every stack.
-/

namespace ScriptTrace

open Stack (ofList)

open StackM

open Trace (stackAfter? stackAfter?_append)

/-! ### Arithmetic on items -/

/-- What an operation on one number makes of the items, if it succeeds. -/
def Unary.onItems? (f : Unary) : List Instruction → Option (List Instruction)
  | x :: l => x.value?.bind fun n => (Instruction.ofInt? (f.eval n)).map (· :: l)
  | [] => none

/-- What an operation on two numbers makes of the items, if it succeeds. -/
def Binary.onItems? (f : Binary) : List Instruction → Option (List Instruction)
  | x :: y :: l =>
    x.value?.bind fun a => y.value?.bind fun b => (Instruction.ofInt? (f.eval a b)).map (· :: l)
  | _ => none

/-- What a test against two bounds makes of the items, if it succeeds. -/
def withinOnItems? : List Instruction → Option (List Instruction)
  | x :: y :: z :: l =>
    x.value?.bind fun hi => y.value?.bind fun lo => z.value?.map fun n =>
      .ofBool (decide (lo ≤ n ∧ n < hi)) :: l
  | _ => none

section

variable (v : Verifier) {op other : Opcode}

theorem stackAfter?_unary {f : Unary} (hop : op.operation? = some (.unary f))
    (l : List Instruction) : stackAfter? v [.op op] (ofList l) = (f.onItems? l).map ofList := by
  rw [stackAfter?_operation v hop]
  change (Effect.unary op).stack? (ofList l) = _
  simp only [Effect.unary, hop]
  cases l with
  | nil => rfl
  | cons x l =>
      rw [stack?_popNumber_bind, Unary.onItems?, Option.map_bind]
      congr 1
      funext n
      exact stack?_pushNumber_pure op l (f.eval n) _

theorem stackAfter?_binary {f : Binary} (hop : op.operation? = some (.binary f))
    (l : List Instruction) : stackAfter? v [.op op] (ofList l) = (f.onItems? l).map ofList := by
  rw [stackAfter?_operation v hop]
  change (Effect.binary op).stack? (ofList l) = _
  simp only [Effect.binary, hop]
  rcases l with _ | ⟨x, _ | ⟨y, l⟩⟩
  · rfl
  · rw [stack?_popNumber_bind]
    cases x.value? <;> rfl
  · rw [stack?_popNumber_bind, Binary.onItems?, Option.map_bind]
    congr 1
    funext a
    rw [stack?_popNumber_bind, Function.comp_apply, Option.map_bind]
    congr 1
    funext b
    exact stack?_pushNumber_pure op l (f.eval a b) _

theorem stackAfter?_within (l : List Instruction) :
    stackAfter? v [.op .within] (ofList l) = (withinOnItems? l).map ofList := by
  rw [stackAfter?_operation v rfl]
  change (Effect.within .within).stack? (ofList l) = _
  rw [Effect.within]
  rcases l with _ | ⟨x, _ | ⟨y, _ | ⟨z, l⟩⟩⟩
  · rfl
  · rw [stack?_popNumber_bind]
    cases x.value? <;> rfl
  · simp only [stack?_popNumber_bind]
    cases x.value? <;> cases y.value? <;> rfl
  · simp only [stack?_popNumber_bind, stack?_push_bind, withinOnItems?, stack?_pure]
    cases x.value? <;> cases y.value? <;> cases z.value? <;> rfl

/-- A test on two numbers always has a result: it is in range. -/
theorem Binary.onItems?_test {f : Binary} {test : Int → Int → Bool}
    (hf : ∀ a b, f.eval a b = flag (test a b)) (x y : Instruction) (l : List Instruction) :
    f.onItems? (x :: y :: l) =
      x.value?.bind fun a => y.value?.map fun b => .ofBool (test a b) :: l := by
  rw [onItems?]
  congr 1
  funext a
  rw [Option.map_eq_bind]
  congr 1
  funext b
  rw [hf, Instruction.ofInt?_flag]
  rfl

/-! ### The laws -/

/-- An operation on one number is one on two, with a literal on the left. -/
theorem equivalent_literal_binary {f : Unary} {g : Binary} (n : Int64)
    (hop : op.operation? = some (.unary f)) (hother : other.operation? = some (.binary g))
    (heval : ∀ x, f.eval x = g.eval n.toInt x) : Equivalent v [.op op] [.int n, .op other] := by
  intro s
  obtain ⟨l, rfl⟩ := s.exists_eq_ofList
  rw [stackAfter?_unary v hop, stackAfter?_int_cons, stackAfter?_binary v hother]
  cases l with
  | nil => rfl
  | cons x l =>
      rw [Unary.onItems?, Binary.onItems?, Instruction.value?_int, Option.bind_some]
      simp only [heval]

theorem stackAfter?_not (x : Instruction) (l : List Instruction) :
    stackAfter? v [.op .not] (ofList (x :: l)) =
      x.value?.map fun n => ofList (.ofBool (n == 0) :: l) := by
  rw [stackAfter?_unary v rfl, Unary.onItems?]
  cases x.value? with
  | none => rfl
  | some n =>
      rw [Option.bind_some, Unary.eval, Instruction.ofInt?_flag]
      rfl

theorem stackAfter?_not_ofBool (b : Bool) (l : List Instruction) :
    stackAfter? v [.op .not] (ofList (.ofBool b :: l)) = some (ofList (.ofBool (!b) :: l)) := by
  rw [stackAfter?_not, Instruction.value?_ofBool, Option.map_some, flag_beq_zero]

/-- A test is the negation of the opposite test. -/
theorem equivalent_opposite_not {f g : Binary} (test : Int → Int → Bool)
    (hop : op.operation? = some (.binary f)) (hother : other.operation? = some (.binary g))
    (hf : ∀ a b, f.eval a b = flag (!test a b)) (hg : ∀ a b, g.eval a b = flag (test a b)) :
    Equivalent v [.op op] [.op other, .op .not] := by
  intro s
  obtain ⟨l, rfl⟩ := s.exists_eq_ofList
  rw [stackAfter?_binary v hop, stackAfter?_cons_cons, stackAfter?_binary v hother]
  rcases l with _ | ⟨x, _ | ⟨y, l⟩⟩
  · rfl
  · rfl
  · rw [Binary.onItems?_test hf, Binary.onItems?_test hg]
    cases x.value? <;> cases y.value? <;> simp [stackAfter?_not_ofBool]

/-- To compare the other way round, exchange the operands. -/
theorem equivalent_swap_greaterThan :
    Equivalent v [.op .lessThan] [.op .swap, .op .greaterThan] := by
  intro s
  obtain ⟨l, rfl⟩ := s.exists_eq_ofList
  rw [stackAfter?_binary v rfl, stackAfter?_cons_cons, stackAfter?_onItems? v rfl rfl]
  rcases l with _ | ⟨x, _ | ⟨y, l⟩⟩
  · rfl
  · rfl
  · rw [Rearrangement.onItems?, Option.map_some, Option.bind_some, stackAfter?_binary v rfl,
      Binary.onItems?, Binary.onItems?]
    cases x.value? <;> cases y.value? <;> rfl

/-- The least literal has no negative, and no absolute value for the same reason. -/
theorem ofInt?_natAbs_eq_none {n : Int} (h : Instruction.ofInt? (-n) = none) :
    Instruction.ofInt? (n.natAbs : Int) = none := by
  have hmin : Int64.minValue.toInt = -9223372036854775808 := rfl
  have hmax : Int64.maxValue.toInt = 9223372036854775807 := rfl
  rw [Instruction.ofInt?_eq_none_iff] at h ⊢
  omega

theorem equivalent_dup_negate_max :
    Equivalent v [.op .abs] [.op .dup, .op .negate, .op .max] := by
  intro s
  obtain ⟨l, rfl⟩ := s.exists_eq_ofList
  rw [stackAfter?_unary v rfl, stackAfter?_cons_cons, stackAfter?_onItems? v rfl rfl]
  cases l with
  | nil => rfl
  | cons x l =>
      rw [Rearrangement.onItems?, Option.map_some, Option.bind_some, stackAfter?_cons_cons,
        stackAfter?_unary v rfl, Unary.onItems?, Unary.onItems?]
      cases hx : x.value? with
      | none => rfl
      | some n =>
          rw [Option.bind_some, Option.bind_some]
          change ((Instruction.ofInt? (n.natAbs : Int)).map _).map ofList =
            (((Instruction.ofInt? (-n)).map _).map ofList).bind _
          cases hneg : Instruction.ofInt? (-n) with
          | none =>
              rw [ofInt?_natAbs_eq_none hneg]
              rfl
          | some y =>
              have hy : y.value? = some (-n) := Instruction.value?_of_ofInt? hneg
              have habs : (n.natAbs : Int) = max (-n) n := by omega
              rw [Option.map_some, Option.map_some, Option.bind_some, stackAfter?_binary v rfl,
                Binary.onItems?, hy, hx, habs]
              rfl

/-- By the law of De Morgan. -/
theorem equivalent_not_boolOr :
    Equivalent v [.op .boolAnd] [.op .not, .op .swap, .op .not, .op .boolOr, .op .not] := by
  intro s
  obtain ⟨l, rfl⟩ := s.exists_eq_ofList
  have hswap : ∀ m, stackAfter? v [.op .swap] (ofList m) = _ := stackAfter?_onItems? v rfl rfl
  have hboolOr : ∀ m, stackAfter? v [.op .boolOr] (ofList m) = _ := stackAfter?_binary v rfl
  rw [stackAfter?_binary v rfl, stackAfter?_cons_cons]
  rcases l with _ | ⟨x, _ | ⟨y, l⟩⟩
  · rfl
  · rw [stackAfter?_not]
    cases x.value? <;> rfl
  · have hdeMorgan : ∀ a b : Int, (a != 0 && b != 0) = !(b == 0 || a == 0) := by
      intro a b
      rw [Bool.not_or, Bool.and_comm]
      rfl
    cases hx : x.value? <;> cases hy : y.value? <;>
      simp [stackAfter?_cons_cons, stackAfter?_not, hswap, hboolOr, Rearrangement.onItems?,
        Binary.onItems?, Binary.eval, Instruction.value?_ofBool, Instruction.ofInt?_flag,
        flag_bne_zero, flag_beq_zero, hx, hy, hdeMorgan]

theorem equivalent_pick_within : Equivalent v [.op .within]
    (pickAt 2 ++ [.op .lessThan, .op .rot, .op .rot, .op .lessThanOrEqual, .op .boolAnd]) := by
  intro s
  obtain ⟨l, rfl⟩ := s.exists_eq_ofList
  have hrot : ∀ m, stackAfter? v [.op .rot] (ofList m) = _ := stackAfter?_onItems? v rfl rfl
  have hlt : ∀ m, stackAfter? v [.op .lessThan] (ofList m) = _ := stackAfter?_binary v rfl
  have hle : ∀ m, stackAfter? v [.op .lessThanOrEqual] (ofList m) = _ := stackAfter?_binary v rfl
  have hand : ∀ m, stackAfter? v [.op .boolAnd] (ofList m) = _ := stackAfter?_binary v rfl
  rw [stackAfter?_within v, stackAfter?_append, stackAfter?_pickAt v rfl]
  rcases l with _ | ⟨x, _ | ⟨y, _ | ⟨z, l⟩⟩⟩
  · rfl
  · rfl
  · rfl
  · cases hx : x.value? <;> cases hy : y.value? <;> cases hz : z.value? <;>
      simp [stackAfter?_cons_cons, hrot, hlt, hle, hand, Rearrangement.onItems?, withinOnItems?,
        Binary.onItems?, Binary.eval, Instruction.value?_ofBool, Instruction.ofInt?_flag,
        flag_bne_zero, hx, hy, hz]

/-- What an arithmetic opcode can be replaced by. -/
def Opcode.arithmeticExpansion? : Opcode → Option (List Instruction)
  | .add1 => some [.int 1, .op .add]
  | .sub1 => some [.int (-1), .op .add]
  | .negate => some [.int 0, .op .sub]
  | .abs => some [.op .dup, .op .negate, .op .max]
  | .not => some [.int 0, .op .numEqual]
  | .notEqual0 => some [.int 0, .op .numNotEqual]
  | .lessThan => some [.op .swap, .op .greaterThan]
  | .lessThanOrEqual => some [.op .greaterThan, .op .not]
  | .greaterThanOrEqual => some [.op .lessThan, .op .not]
  | .numNotEqual => some [.op .numEqual, .op .not]
  | .boolAnd => some [.op .not, .op .swap, .op .not, .op .boolOr, .op .not]
  | .within =>
    some (pickAt 2 ++ [.op .lessThan, .op .rot, .op .rot, .op .lessThanOrEqual, .op .boolAnd])
  | _ => none

theorem Opcode.equivalent_arithmeticExpansion {e : List Instruction}
    (h : op.arithmeticExpansion? = some e) : Equivalent v [.op op] e := by
  cases op <;> cases h
  case add1 =>
    apply equivalent_literal_binary v 1 rfl rfl
    intro x
    exact Int.add_comm x 1
  case sub1 =>
    apply equivalent_literal_binary v (-1) rfl rfl
    intro x
    change x - 1 = -1 + x
    omega
  case negate =>
    apply equivalent_literal_binary v 0 rfl rfl
    intro x
    exact (Int.zero_sub x).symm
  case abs => exact equivalent_dup_negate_max v
  case not =>
    apply equivalent_literal_binary v 0 rfl rfl
    intro x
    exact congrArg flag (Bool.beq_comm ..)
  case notEqual0 =>
    apply equivalent_literal_binary v 0 rfl rfl
    intro x
    exact congrArg flag (bne_comm ..)
  case lessThan => exact equivalent_swap_greaterThan v
  case lessThanOrEqual =>
    apply equivalent_opposite_not v (fun a b => b < a) rfl rfl
    · intro a b
      simp [Binary.eval, ← decide_not]
    · intro a b
      rfl
  case greaterThanOrEqual =>
    apply equivalent_opposite_not v (fun a b => a < b) rfl rfl
    · intro a b
      simp [Binary.eval, ← decide_not]
    · intro a b
      rfl
  case numNotEqual =>
    apply equivalent_opposite_not v (fun a b => a == b) rfl rfl
    · intro a b
      rfl
    · intro a b
      rfl
  case boolAnd => exact equivalent_not_boolOr v
  case within => exact equivalent_pick_within v

end

/-- **Arithmetic opcodes are abbreviations.** Between any two scripts an opcode that has an arithmetic expansion can be replaced by it: the run fails or not as before, with the same verdict and the same final stack. -/
theorem simulate_arithmeticExpansion_sameOutcome (v : Verifier) (p q : List Instruction)
    (op : Opcode) (e : List Instruction) (h : op.arithmeticExpansion? = some e) :
    (simulate v (p ++ [.op op] ++ q)).SameOutcome (simulate v (p ++ e ++ q)) :=
  (op.equivalent_arithmeticExpansion v h).sameOutcome p q

/-- The least literal has no absolute value, spelled out or not. -/
theorem simulate_abs_minValue_sameOutcome :
    Opcode.abs.arithmeticExpansion? = some [.op .dup, .op .negate, .op .max] ∧
    (simulate .placeholder [.int Int64.minValue, .op .abs, .op .not]).Fails ∧
    (simulate .placeholder [.int Int64.minValue, .op .abs, .op .not]).SameOutcome
      (simulate .placeholder [.int Int64.minValue, .op .dup, .op .negate, .op .max, .op .not]) := by
  refine ⟨rfl, ?_, simulate_arithmeticExpansion_sameOutcome .placeholder [.int Int64.minValue]
    [.op .not] .abs _ rfl⟩
  exact ⟨⟨[.op .not], [], "OP_ABS overflowed the numeric range", true, .failed⟩, by decide +kernel, rfl⟩

end ScriptTrace
