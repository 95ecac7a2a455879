import Mathlib.Data.List.Basic
import ScriptTrace.Proofs.Equivalence.Basic

/-!
# Rearrangements spelled out

Two opcodes with a position before them, `OP_PICK` and `OP_ROLL`, do the work of most of the others. `Opcode.expansion?` spells out twelve opcodes with them and `OP_DROP`; each is equivalent to its expansion. On a stack with too few items both fail, the opcode because the catalog asks for more, its expansion because a position lies outside.
-/

namespace ScriptTrace

open Stack (ofList)

open Trace (stackAfter? stackAfter?_append)

/-- Copy the item at a position to the top. -/
def pickAt (d : Nat) : List Instruction := [.int (.ofNat d), .op .pick]

/-- Move the item at a position to the top. -/
def rollAt (d : Nat) : List Instruction := [.int (.ofNat d), .op .roll]

/-- What an opcode can be replaced by. -/
def Opcode.expansion? : Opcode → Option (List Instruction)
  | .dup => some (pickAt 0)
  | .over => some (pickAt 1)
  | .swap => some (rollAt 1)
  | .rot => some (rollAt 2)
  | .drop2 => some [.op .drop, .op .drop]
  | .nip => some (rollAt 1 ++ [.op .drop])
  | .tuck => some (rollAt 1 ++ pickAt 1)
  | .dup2 => some (pickAt 1 ++ pickAt 1)
  | .dup3 => some (pickAt 2 ++ pickAt 2 ++ pickAt 2)
  | .over2 => some (pickAt 3 ++ pickAt 3)
  | .swap2 => some (rollAt 3 ++ rollAt 3)
  | .rot2 => some (rollAt 5 ++ rollAt 5)
  | _ => none

section

variable (v : Verifier)

/-! ### Rearrangements as scripts -/

theorem stackAfter?_rearrangement {op : Opcode} {r : Rearrangement}
    (hop : op.operation? = some (.rearrange r)) (s : Stack) :
    stackAfter? v [.op op] s = (Effect.runRearrangement op r).stack? s := by
  have hrearrange : Effect.rearrange op s =
      (Effect.runRearrangement op r >>= fun change => return .rearranged op change) s := by
    rw [Effect.rearrange, hop]
  rw [stackAfter?_operation v hop]
  change (Effect.rearrange op).stack? s = _
  cases hrun : Effect.runRearrangement op r s with
  | ok change t =>
      rw [StackM.bind_apply, hrun] at hrearrange
      rw [StackM.stack?_of_ok hrun, StackM.stack?_of_ok hrearrange]
  | error failure t =>
      rw [StackM.bind_apply, hrun] at hrearrange
      rw [StackM.stack?_of_error hrun, StackM.stack?_of_error hrearrange]

theorem stackAfter?_onItems? {op : Opcode} {r : Rearrangement}
    (hop : op.operation? = some (.rearrange r)) (hr : r.readsPosition = false)
    (l : List Instruction) :
    stackAfter? v [.op op] (ofList l) = (r.onItems? l).map fun result => ofList result.2 := by
  rw [stackAfter?_rearrangement v hop]
  cases hitems : r.onItems? l with
  | some result =>
      obtain ⟨change, m⟩ := result
      rw [StackM.stack?_of_ok (Effect.runRearrangement_of_onItems? op hitems)]
      rfl
  | none =>
      have hl : l.length < r.arity := by
        by_contra hle
        have hsome := Rearrangement.isSome_onItems? hr (Nat.le_of_not_lt hle)
        rw [hitems] at hsome
        cases hsome
      obtain ⟨t, ht⟩ := Effect.runRearrangement_of_length_lt op hl
      rw [StackM.stack?_of_error ht]
      rfl

theorem stackAfter?_pickAt {d : Nat} (hd : (Int64.ofNat d).toInt = d) (l : List Instruction) :
    stackAfter? v (pickAt d) (ofList l) = l[d]?.map fun x => ofList (x :: l) := by
  rw [pickAt, stackAfter?_int_cons, stackAfter?_rearrangement v rfl, StackM.stack?,
    Effect.runRearrangement_pick _ rfl hd]
  cases l[d]? <;> rfl

theorem stackAfter?_rollAt {d : Nat} (hd : (Int64.ofNat d).toInt = d) (l : List Instruction) :
    stackAfter? v (rollAt d) (ofList l) = l[d]?.map fun x => ofList (x :: l.eraseIdx d) := by
  rw [rollAt, stackAfter?_int_cons, stackAfter?_rearrangement v rfl, StackM.stack?,
    Effect.runRearrangement_roll _ rfl hd]
  cases l[d]? <;> rfl

theorem stackAfter?_drop (l : List Instruction) :
    stackAfter? v [.op .drop] (ofList l) = l.tail?.map ofList := by
  rw [stackAfter?_onItems? v rfl rfl]
  cases l <;> rfl

/-! ### The expansions -/

/-- An opcode and its expansion do the same to every stack. -/
theorem Opcode.equivalent_expansion {op : Opcode} {e : List Instruction}
    (h : op.expansion? = some e) : Equivalent v [.op op] e := by
  intro s
  obtain ⟨l, rfl⟩ := s.exists_eq_ofList
  -- In each case the items are named that are looked at; a stack with fewer is too small for both.
  cases op <;> cases h
  case dup =>
    rw [stackAfter?_onItems? v rfl rfl, stackAfter?_pickAt v rfl]
    rcases l with _ | ⟨a, l⟩ <;> rfl
  case «over» =>
    rw [stackAfter?_onItems? v rfl rfl, stackAfter?_pickAt v rfl]
    rcases l with _ | ⟨a, _ | ⟨b, l⟩⟩ <;> rfl
  case swap =>
    rw [stackAfter?_onItems? v rfl rfl, stackAfter?_rollAt v rfl]
    rcases l with _ | ⟨a, _ | ⟨b, l⟩⟩ <;> rfl
  case rot =>
    rw [stackAfter?_onItems? v rfl rfl, stackAfter?_rollAt v rfl]
    rcases l with _ | ⟨a, _ | ⟨b, _ | ⟨c, l⟩⟩⟩ <;> rfl
  case drop2 =>
    rw [stackAfter?_onItems? v rfl rfl, ← List.singleton_append, stackAfter?_append,
      stackAfter?_drop]
    rcases l with _ | ⟨a, l⟩
    · rfl
    · cases l <;> simp [stackAfter?_drop, Rearrangement.onItems?]
  case nip =>
    rw [stackAfter?_onItems? v rfl rfl, stackAfter?_append, stackAfter?_rollAt v rfl]
    rcases l with _ | ⟨a, _ | ⟨b, l⟩⟩ <;> simp [stackAfter?_drop, Rearrangement.onItems?]
  case tuck =>
    have hpick := stackAfter?_pickAt v (d := 1) rfl
    rw [stackAfter?_onItems? v rfl rfl, stackAfter?_append, stackAfter?_rollAt v rfl]
    rcases l with _ | ⟨a, _ | ⟨b, l⟩⟩ <;> simp [hpick, Rearrangement.onItems?]
  case dup2 =>
    have hpick := stackAfter?_pickAt v (d := 1) rfl
    rw [stackAfter?_onItems? v rfl rfl, stackAfter?_append, hpick]
    rcases l with _ | ⟨a, _ | ⟨b, l⟩⟩ <;> simp [hpick, Rearrangement.onItems?]
  case dup3 =>
    have hpick := stackAfter?_pickAt v (d := 2) rfl
    rw [stackAfter?_onItems? v rfl rfl, stackAfter?_append, stackAfter?_append, hpick]
    rcases l with _ | ⟨a, _ | ⟨b, _ | ⟨c, l⟩⟩⟩ <;> simp [hpick, Rearrangement.onItems?]
  case over2 =>
    have hpick := stackAfter?_pickAt v (d := 3) rfl
    rw [stackAfter?_onItems? v rfl rfl, stackAfter?_append, hpick]
    rcases l with _ | ⟨a, _ | ⟨b, _ | ⟨c, _ | ⟨d, l⟩⟩⟩⟩ <;> simp [hpick, Rearrangement.onItems?]
  case swap2 =>
    have hroll := stackAfter?_rollAt v (d := 3) rfl
    rw [stackAfter?_onItems? v rfl rfl, stackAfter?_append, hroll]
    rcases l with _ | ⟨a, _ | ⟨b, _ | ⟨c, _ | ⟨d, l⟩⟩⟩⟩ <;> simp [hroll, Rearrangement.onItems?]
  case rot2 =>
    have hroll := stackAfter?_rollAt v (d := 5) rfl
    rw [stackAfter?_onItems? v rfl rfl, stackAfter?_append, hroll]
    rcases l with _ | ⟨a, _ | ⟨b, _ | ⟨c, _ | ⟨d, _ | ⟨e, _ | ⟨f, l⟩⟩⟩⟩⟩⟩ <;>
      simp [hroll, Rearrangement.onItems?]

end

/-- **Rearrangements are abbreviations.** Between any two scripts an opcode that has an expansion can be replaced by it: the run fails or not as before, with the same verdict and the same final stack. -/
theorem simulate_expansion_sameOutcome (v : Verifier) (p q : List Instruction) (op : Opcode)
    (e : List Instruction) (h : op.expansion? = some e) :
    (simulate v (p ++ [.op op] ++ q)).SameOutcome (simulate v (p ++ e ++ q)) :=
  (op.equivalent_expansion v h).sameOutcome p q

/-- `OP_TUCK` is two instructions twice, here between two numbers and their difference. -/
theorem simulate_tuck_sameOutcome :
    Opcode.tuck.expansion? = some [.int 1, .op .roll, .int 1, .op .pick] ∧
    (simulate .placeholder [.int 7, .int 8, .op .tuck, .op .sub]).SameOutcome
      (simulate .placeholder [.int 7, .int 8, .int 1, .op .roll, .int 1, .op .pick, .op .sub]) ∧
    (simulate .placeholder [.int 7, .int 8, .op .tuck, .op .sub]).finalStack = [.int 1, .int 8] ∧
    (simulate .placeholder
      [.int 7, .int 8, .int 1, .op .roll, .int 1, .op .pick, .op .sub]).finalStack =
        [.int 1, .int 8] ∧
    (simulate .placeholder
      [.int 7, .int 8, .int 1, .op .roll, .int 1, .op .pick, .op .sub]).valid = true := by
  have hsame : (simulate .placeholder [.int 7, .int 8, .op .tuck, .op .sub]).SameOutcome
      (simulate .placeholder [.int 7, .int 8, .int 1, .op .roll, .int 1, .op .pick, .op .sub]) :=
    simulate_expansion_sameOutcome .placeholder [.int 7, .int 8] [.op .sub] .tuck
      [.int 1, .op .roll, .int 1, .op .pick] rfl
  have hstack : (simulate .placeholder [.int 7, .int 8, .op .tuck, .op .sub]).finalStack =
      [.int 1, .int 8] := by
    decide +kernel
  have hvalid : (simulate .placeholder [.int 7, .int 8, .op .tuck, .op .sub]).valid = true := by
    decide +kernel
  have hnot : ¬ (simulate .placeholder [.int 7, .int 8, .op .tuck, .op .sub]).Fails := by
    rw [simulate_fails_iff]
    decide +kernel
  refine ⟨rfl, hsame, hstack, ?_, ?_⟩
  · rw [← hsame.finalStack_eq hnot (mt hsame.fails_iff.mpr hnot), hstack]
  · rw [← hsame.valid_eq, hvalid]

end ScriptTrace
