import Mathlib.Data.List.Rotate
import ScriptTrace.Proofs.Equivalence.Rearrange

/-!
# Items at a position

`OP_PICK` and `OP_ROLL` take a number off the stack and fetch the item at that position of what is left, one as a copy and the other out of its place. They begin alike, so there is one account of how they fail, and it does not say which of the two it is about. Moving the item at position `d` to the top turns the `d + 1` topmost items by one place and leaves the others alone; done again and again it turns them on, until after `d + 1` times everything is back where it was.
-/

namespace ScriptTrace

open Stack (ofList)

open Trace (stackAfter? stackAfter?_append)

/-! ### Fetching -/

/-- What an opcode that reads a position has to come to with `x` on top of `s`, if `kept d` are the items that stay below the one from position `d` and `change d` tells of that one. -/
structure FetchOutcome (op : Opcode) (x : Instruction) (s : List Instruction)
    (kept : Nat → List Instruction) (change : Int → Instruction → Change)
    (outcome : EStateM.Result Failure Stack Report) : Prop where
  ok_iff : (∃ report t, outcome = .ok report t) ↔ ∃ n, x.value? = some n ∧ 0 ≤ n ∧ n < s.length
  fetched : ∀ (d : Nat) (y : Instruction), x.value? = some (d : Int) → s[d]? = some y →
    outcome = .ok (.rearranged op (change d y)) (ofList (y :: kept d))
  notNumeric : x.value? = none → outcome = .error (.notNumeric op x) (ofList s)
  outOfBounds : ∀ n, x.value? = some n → ¬ (0 ≤ n ∧ n < s.length) →
    outcome = .error (.indexOutOfBounds op n s.length) (ofList s)

namespace Effect

open StackM

variable {op : Opcode} {x : Instruction} {s : List Instruction}

theorem popPosition_of_none (hx : x.value? = none) :
    popPosition op (ofList (x :: s)) = .error (.notNumeric op x) (ofList s) := by
  rw [popPosition_cons, Option.map_eq_none_iff.mp hx]

theorem popPosition_of_not_lt {n : Int} (hx : x.value? = some n) (hn : ¬ (0 ≤ n ∧ n < s.length)) :
    popPosition op (ofList (x :: s)) = .error (.indexOutOfBounds op n s.length) (ofList s) := by
  obtain ⟨word, hword, rfl⟩ := Option.map_eq_some_iff.mp hx
  rw [popPosition_cons, hword]
  exact if_neg hn

/-- Without a position neither opcode does anything more. -/
theorem rearrange_of_popPosition_error {r : Rearrangement}
    (hop : op.operation? = some (.rearrange r)) (hr : r.readsPosition = true) {failure : Failure}
    {stack left : Stack} (h : popPosition op stack = .error failure left) :
    rearrange op stack = .error failure left := by
  rcases Rearrangement.readsPosition_iff.mp hr with rfl | rfl
  · simp [rearrange, hop, runRearrangement, h]
  · simp [rearrange, hop, runRearrangement, h]

/-- Whatever an opcode does at its position, it fails only for want of one. -/
theorem rearrange_fetchOutcome {r : Rearrangement} (hop : op.operation? = some (.rearrange r))
    (hr : r.readsPosition = true) {kept : Nat → List Instruction} {change : Int → Instruction → Change}
    (hfetch : ∀ (d : Nat) (y : Instruction), x.value? = some (d : Int) → s[d]? = some y →
      runRearrangement op r (ofList (x :: s)) = .ok (change d y) (ofList (y :: kept d))) :
    FetchOutcome op x s kept change (rearrange op (ofList (x :: s))) := by
  have hfetched : ∀ (d : Nat) (y : Instruction), x.value? = some (d : Int) → s[d]? = some y →
      rearrange op (ofList (x :: s)) = .ok (.rearranged op (change d y)) (ofList (y :: kept d)) := by
    intro d y hx hy
    simp [rearrange, hop, hfetch d y hx hy]
  have hnone : x.value? = none → rearrange op (ofList (x :: s)) = .error (.notNumeric op x) (ofList s) :=
    fun hx => rearrange_of_popPosition_error hop hr (popPosition_of_none hx)
  have hbounds : ∀ n, x.value? = some n → ¬ (0 ≤ n ∧ n < s.length) →
      rearrange op (ofList (x :: s)) = .error (.indexOutOfBounds op n s.length) (ofList s) :=
    fun n hx hn => rearrange_of_popPosition_error hop hr (popPosition_of_not_lt hx hn)
  refine ⟨⟨?_, ?_⟩, hfetched, hnone, hbounds⟩
  · rintro ⟨report, t, hok⟩
    cases hx : x.value? with
    | none => cases (hnone hx).symm.trans hok
    | some n =>
        refine ⟨n, rfl, ?_⟩
        by_contra hn
        cases (hbounds n hx hn).symm.trans hok
  · rintro ⟨n, hx, hnonneg, hlt⟩
    obtain ⟨d, rfl⟩ := Int.eq_ofNat_of_zero_le hnonneg
    have hd : d < s.length := by omega
    exact ⟨_, _, hfetched d s[d] hx (List.getElem?_eq_getElem hd)⟩

theorem pick_fetchOutcome :
    FetchOutcome .pick x s (fun _ => s) .copiedAt (rearrange .pick (ofList (x :: s))) := by
  refine rearrange_fetchOutcome rfl rfl fun d y hx hy => ?_
  obtain ⟨word, hnumber, hword⟩ := Option.map_eq_some_iff.mp hx
  rw [runRearrangement_pick _ hnumber hword, hy]

theorem roll_fetchOutcome :
    FetchOutcome .roll x s (fun d => s.eraseIdx d) .takenFrom (rearrange .roll (ofList (x :: s))) := by
  refine rearrange_fetchOutcome rfl rfl fun d y hx hy => ?_
  obtain ⟨word, hnumber, hword⟩ := Option.map_eq_some_iff.mp hx
  rw [runRearrangement_roll _ hnumber hword, hy]

end Effect

/-- One item is enough for the catalog, whatever the position on it. -/
theorem Opcode.execute_of_readsPosition (v : Verifier) {op : Opcode} {r : Rearrangement}
    (hop : op.operation? = some (.rearrange r)) (hr : r.readsPosition = true) {x : Instruction}
    {s : List Instruction} : op.execute v (ofList (x :: s)) = Effect.rearrange op (ofList (x :: s)) := by
  have hcount : op.argCount = 1 := by
    rw [argCount_of_operation? hop]
    rcases Rearrangement.readsPosition_iff.mp hr with rfl | rfl <;> rfl
  have hsize : op.argCount ≤ (ofList (x :: s)).size := by
    rw [hcount, Stack.size_ofList, List.length_cons]
    omega
  exact execute_of_operation? hop hsize

/-! ### Turning -/

section

variable {α : Type} (l : List α)

theorem rotateRight_eq_rotate (j : Nat) : l.rotateRight j = l.rotate (l.length - j % l.length) := by
  rw [List.rotate_eq_drop_append_take (Nat.sub_le _ _), List.rotateRight]
  by_cases hl : l.length ≤ 1
  · rw [if_pos hl]
    rcases l with _ | ⟨a, _ | ⟨b, l⟩⟩
    · simp
    · simp [Nat.mod_one]
    · simp at hl
  · rw [if_neg hl]

theorem length_rotateRight (j : Nat) : (l.rotateRight j).length = l.length := by
  rw [rotateRight_eq_rotate, List.length_rotate]

/-- Turning back undoes turning. This determines the turned list, since turning back is injective. -/
theorem rotate_rotateRight (j : Nat) : (l.rotateRight j).rotate j = l := by
  rw [rotateRight_eq_rotate, List.rotate_rotate]
  rcases Nat.eq_zero_or_pos l.length with hl | hl
  · rw [List.length_eq_zero_iff.mp hl, List.rotate_nil]
  · have hmod : j % l.length < l.length := Nat.mod_lt j hl
    have hdiv : l.length * (j / l.length) + j % l.length = j := Nat.div_add_mod j l.length
    have hsum : l.length - j % l.length + j = l.length * (j / l.length + 1) := by
      rw [Nat.mul_add_one]
      omega
    rw [hsum, List.rotate_length_mul]

theorem rotateRight_add_one (j : Nat) : (l.rotateRight j).rotateRight = l.rotateRight (j + 1) := by
  apply List.rotate_injective (j + 1)
  calc (l.rotateRight j).rotateRight.rotate (j + 1)
      = ((l.rotateRight j).rotateRight.rotate 1).rotate j := by
        rw [List.rotate_rotate, Nat.add_comm]
    _ = l := by rw [rotate_rotateRight, rotate_rotateRight]
    _ = (l.rotateRight (j + 1)).rotate (j + 1) := (rotate_rotateRight l (j + 1)).symm

theorem rotateRight_length : l.rotateRight l.length = l := by
  apply List.rotate_injective l.length
  dsimp only
  rw [rotate_rotateRight, List.rotate_length]

theorem rotateRight_append_singleton (x : α) : (l ++ [x]).rotateRight = x :: l := by
  apply List.rotate_injective 1
  dsimp only
  rw [rotate_rotateRight, List.rotate_cons_succ, List.rotate_zero]

end

/-- The items with the `d + 1` topmost turned by `j` places, each time the lowest of them to the top. -/
def turned (d j : Nat) (s : List Instruction) : List Instruction :=
  (s.take (d + 1)).rotateRight j ++ s.drop (d + 1)

section

variable {d : Nat} {s : List Instruction}

theorem turned_zero : turned d 0 s = s := by
  have hback := rotate_rotateRight (s.take (d + 1)) 0
  rw [List.rotate_zero] at hback
  rw [turned, hback, List.take_append_drop]

theorem turned_full (h : d < s.length) : turned d (d + 1) s = s := by
  have hlength : (s.take (d + 1)).length = d + 1 := by
    rw [List.length_take]
    omega
  have hfull := rotateRight_length (s.take (d + 1))
  rw [hlength] at hfull
  rw [turned, hfull, List.take_append_drop]

/-- To move an item to the top is to turn it and those above it. -/
theorem cons_eraseIdx_eq_turned (h : d < s.length) : s[d] :: s.eraseIdx d = turned d 1 s := by
  rw [turned, List.take_add_one, List.getElem?_eq_getElem h, Option.toList_some,
    rotateRight_append_singleton, List.eraseIdx_eq_take_drop_succ, List.cons_append]

theorem length_turned (d j : Nat) (s : List Instruction) : (turned d j s).length = s.length := by
  rw [turned, List.length_append, length_rotateRight, ← List.length_append, List.take_append_drop]

theorem turned_turned (h : d < s.length) (j : Nat) : turned d 1 (turned d j s) = turned d (j + 1) s := by
  have hlength : ((s.take (d + 1)).rotateRight j).length = d + 1 := by
    rw [length_rotateRight, List.length_take]
    omega
  rw [turned, turned, List.take_left' hlength, List.drop_left' hlength, rotateRight_add_one, turned]

end

/-- A literal and `OP_ROLL`, so many times. -/
def rolls (n : Int64) (j : Nat) : List Instruction := (List.replicate j [.int n, .op .roll]).flatten

theorem rolls_add_one (n : Int64) (j : Nat) : rolls n (j + 1) = rolls n j ++ [.int n, .op .roll] := by
  rw [rolls, List.replicate_succ', List.flatten_append, List.flatten_singleton, rolls]

theorem stackAfter?_roll (v : Verifier) {n : Int64} {d : Nat} (hn : n.toInt = d)
    {s : List Instruction} (hd : d < s.length) :
    stackAfter? v [.int n, .op .roll] (ofList s) = some (ofList (turned d 1 s)) := by
  have hword : Int64.ofNat d = n := by
    rw [← Int64.ofInt_toInt n, hn]
    rfl
  have hroll := stackAfter?_rollAt v (d := d) (by rw [hword, hn]) s
  rw [rollAt, hword, List.getElem?_eq_getElem hd, Option.map_some, cons_eraseIdx_eq_turned hd] at hroll
  exact hroll

/-- Each of the rolls turns the items by one place more. -/
theorem stackAfter?_rolls (v : Verifier) {n : Int64} {d : Nat} (hn : n.toInt = d)
    {s : List Instruction} (hd : d < s.length) (j : Nat) :
    stackAfter? v (rolls n j) (ofList s) = some (ofList (turned d j s)) := by
  induction j with
  | zero => rw [turned_zero]; rfl
  | succ j ih =>
      rw [rolls_add_one, stackAfter?_append, ih, Option.bind_some,
        stackAfter?_roll v hn (by rw [length_turned]; exact hd), turned_turned hd]

/-- **Picking and rolling.** With `x` on top of `s`, both opcodes succeed exactly if `x` is a number that is a position in `s`, and put the item from there on top of `s`, or of `s` without it. Otherwise they fail, say what is wrong with `x`, and leave `s`. So after a run that did not fail, rolling the item at position `d` to the top `j` times turns the `d + 1` topmost items by `j` places and keeps those below; `d + 1` times restore the stack. -/
theorem pick_roll_exact (v : Verifier) :
    (∀ (x : Instruction) (s : List Instruction),
      FetchOutcome .pick x s (fun _ => s) .copiedAt (Opcode.pick.execute v (ofList (x :: s))) ∧
      FetchOutcome .roll x s (fun d => s.eraseIdx d) .takenFrom
        (Opcode.roll.execute v (ofList (x :: s)))) ∧
    (∀ (p : List Instruction) (n : Int64) (d : Nat), ¬ (simulate v p).Fails → n.toInt = d →
      d < (simulate v p).finalStack.length →
      (∀ j, ¬ (simulate v (p ++ rolls n j)).Fails ∧
        (simulate v (p ++ rolls n j)).finalStack =
          ((simulate v p).finalStack.take (d + 1)).rotateRight j ++
            (simulate v p).finalStack.drop (d + 1)) ∧
      (simulate v (p ++ rolls n (d + 1))).finalStack = (simulate v p).finalStack) := by
  refine ⟨fun x s => ?_, fun p n d hp hn hd => ?_⟩
  · rw [Opcode.execute_of_readsPosition v rfl rfl, Opcode.execute_of_readsPosition v rfl rfl]
    exact ⟨Effect.pick_fetchOutcome, Effect.roll_fetchOutcome⟩
  · obtain ⟨t, ht⟩ := exists_stackAfter?_of_not_fails hp
    obtain ⟨s, rfl⟩ := t.exists_eq_ofList
    rw [finalStack_simulate ht, Stack.toList_ofList] at hd ⊢
    have hrun : ∀ j, stackAfter? v (p ++ rolls n j) .empty = some (ofList (turned d j s)) := by
      intro j
      rw [stackAfter?_append, ht, Option.bind_some, stackAfter?_rolls v hn hd]
    refine ⟨fun j => ⟨?_, ?_⟩, ?_⟩
    · rw [simulate_fails_iff, hrun j]
      exact Option.some_ne_none _
    · rw [finalStack_simulate (hrun j), Stack.toList_ofList, turned]
    · rw [finalStack_simulate (hrun (d + 1)), Stack.toList_ofList, turned_full hd]

/-- Two of four items up, twice; and a negative position, given by an opcode. -/
theorem pick_roll_exact_four :
    (simulate .placeholder [.int 10, .int 11, .int 12, .int 13, .int 2, .op .roll, .int 2,
        .op .roll]).finalStack = [.int 12, .int 11, .int 13, .int 10] ∧
      Opcode.pick.execute .placeholder (ofList [.op .num1Negate, .int 10]) =
        .error (.indexOutOfBounds .pick (-1) 1) (ofList [.int 10]) := by
  obtain ⟨hfetch, hturn⟩ := pick_roll_exact .placeholder
  have hp : ¬ (simulate .placeholder [.int 10, .int 11, .int 12, .int 13]).Fails := by
    rw [simulate_fails_iff]
    decide +kernel
  constructor
  · exact ((hturn [.int 10, .int 11, .int 12, .int 13] 2 2 hp rfl (by decide +kernel)).1 2).2
  · exact (hfetch (.op .num1Negate) [.int 10]).1.outOfBounds (-1) rfl (by decide)

end ScriptTrace
