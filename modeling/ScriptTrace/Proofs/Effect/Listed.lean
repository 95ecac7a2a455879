import Mathlib.Data.List.Basic
import ScriptTrace.Effect.Execute
import ScriptTrace.Stack.Lemmas

/-!
# Effects on a listed stack

What each effect does to a stack given as a list of its items, top first. The basic effects come first, one equation each; they are simp lemmas, so an effect that is built from them is evaluated by `simp` once the items it reads are named. The operations follow: the fifteen rearrangements that read no position are one function on lists, the other two look up the item at the position, and taking off a counted run of accepted items is a search for the first one that is not.
-/

namespace ScriptTrace

open Stack (ofList)

namespace StackM

variable {α β : Type}

@[simp] theorem bind_apply (x : StackM α) (f : α → StackM β) (s : Stack) :
    (x >>= f) s = match x s with
      | .ok a t => f a t
      | .error failure t => .error failure t := by
  change EStateM.bind x f s = _
  rw [EStateM.bind]
  cases x s <;> rfl

@[simp] theorem map_apply (f : α → β) (x : StackM α) (s : Stack) :
    (f <$> x) s = match x s with
      | .ok a t => .ok (f a) t
      | .error failure t => .error failure t := by
  change EStateM.map f x s = _
  rw [EStateM.map]
  cases x s <;> rfl

@[simp] theorem pure_apply (a : α) (s : Stack) : (pure a : StackM α) s = .ok a s := rfl

@[simp] theorem throw_apply (failure : Failure) (s : Stack) :
    (throw failure : StackM α) s = .error failure s := rfl

@[simp] theorem size_listed (l : List Instruction) : size (ofList l) = .ok l.length (ofList l) := by
  simp [size]

@[simp] theorem push_listed (x : Instruction) (l : List Instruction) :
    push x (ofList l) = .ok () (ofList (x :: l)) := by
  simp [push]

@[simp] theorem popOperand_nil (op : Opcode) :
    popOperand op (ofList []) = .error (.stackUnderflow op) (ofList []) := rfl

@[simp] theorem popOperand_cons (op : Opcode) (x : Instruction) (l : List Instruction) :
    popOperand op (ofList (x :: l)) = .ok x (ofList l) := by
  simp [popOperand]

@[simp] theorem popNumber_nil (op : Opcode) :
    popNumber op (ofList []) = .error (.stackUnderflow op) (ofList []) := rfl

@[simp] theorem popNumber_cons (op : Opcode) (x : Instruction) (l : List Instruction) :
    popNumber op (ofList (x :: l)) = match x.number? with
      | some n => .ok n.toInt (ofList l)
      | none => .error (.notNumeric op x) (ofList l) := by
  rw [popNumber, bind_apply, popOperand_cons]
  dsimp only
  cases x.number? <;> rfl

@[simp] theorem pushNumber_listed (op : Opcode) (n : Int) (l : List Instruction) :
    pushNumber op n (ofList l) = match Instruction.ofInt? n with
      | some literal => .ok () (ofList (literal :: l))
      | none => .error (.numericOverflow op) (ofList l) := by
  rw [pushNumber]
  cases Instruction.ofInt? n <;> simp

@[simp] theorem operandAt_listed (op : Opcode) (d : Nat) (l : List Instruction) :
    operandAt op d (ofList l) = match l[d]? with
      | some x => .ok x (ofList l)
      | none => .error (.stackUnderflow op) (ofList l) := by
  cases h : l[d]? <;> simp [operandAt, h]

@[simp] theorem removeAt_listed (op : Opcode) (d : Nat) (l : List Instruction) :
    removeAt op d (ofList l) = match l[d]? with
      | some x => .ok x (ofList (l.eraseIdx d))
      | none => .error (.stackUnderflow op) (ofList l) := by
  cases h : l[d]? <;> simp [removeAt, h]

@[simp] theorem insertAt_listed (op : Opcode) (d : Nat) (x : Instruction) (l : List Instruction) :
    insertAt op d x (ofList l) =
      if d ≤ l.length then .ok () (ofList (l.insertIdx d x))
      else .error (.stackUnderflow op) (ofList l) := by
  rw [insertAt, Stack.insert?_ofList]
  by_cases hd : d ≤ l.length
  · rw [if_pos hd, if_pos hd]
  · rw [if_neg hd, if_neg hd]

@[simp] theorem swapAt_listed (op : Opcode) (d e : Nat) (l : List Instruction) :
    swapAt op d e (ofList l) =
      if h : d < l.length ∧ e < l.length then .ok () (ofList ((l.set d l[e]).set e l[d]))
      else .error (.stackUnderflow op) (ofList l) := by
  rw [swapAt, Stack.swap?_ofList]
  by_cases h : d < l.length ∧ e < l.length
  · rw [dif_pos h, dif_pos h]
  · rw [dif_neg h, dif_neg h]

end StackM

/-! ### Rearrangements

Apart from the two that take a position off the stack, a rearrangement looks at no more than the six topmost items, so seven shapes of the stack cover all that can happen. -/

namespace Rearrangement

/-- How many items a rearrangement looks at, not counting the one at the position it was given. -/
def arity : Rearrangement → Nat
  | .depth => 0
  | .dup | .drop | .ifDup | .pick | .roll => 1
  | .drop2 | .dup2 | .nip | .over | .swap | .tuck => 2
  | .dup3 | .rot => 3
  | .over2 | .swap2 => 4
  | .rot2 => 6

theorem arity_le_six (r : Rearrangement) : r.arity ≤ 6 := by
  cases r <;> decide

/-- The rearrangements that take a position off the stack. -/
def readsPosition (r : Rearrangement) : Bool := r == .pick || r == .roll

theorem readsPosition_iff {r : Rearrangement} : r.readsPosition = true ↔ r = .pick ∨ r = .roll := by
  simp [readsPosition]

/-- What a rearrangement that reads no position makes of the items, if there are enough of them. -/
def onItems? : Rearrangement → List Instruction → Option (Change × List Instruction)
  | .depth, l => some (.counted (.ofNat l.length), .int (.ofNat l.length) :: l)
  | .dup, a :: l => some (.copied a, a :: a :: l)
  | .drop, a :: l => some (.popped a, l)
  | .drop2, a :: b :: l => some (.popped2 a b, l)
  | .dup2, a :: b :: l => some (.copied2 a b, a :: b :: a :: b :: l)
  | .dup3, a :: b :: c :: l => some (.copied3 a b c, a :: b :: c :: a :: b :: c :: l)
  | .over2, a :: b :: c :: d :: l => some (.copied2 c d, c :: d :: a :: b :: c :: d :: l)
  | .rot2, a :: b :: c :: d :: e :: f :: l => some (.moved2 e f, e :: f :: a :: b :: c :: d :: l)
  | .swap2, a :: b :: c :: d :: l => some (.swapped2 a b c d, c :: d :: a :: b :: l)
  | .ifDup, a :: l =>
    if a.truthy then some (.copiedTrue a, a :: a :: l) else some (.keptFalse a, a :: l)
  | .nip, a :: b :: l => some (.popped b, a :: l)
  | .over, a :: b :: l => some (.copied b, b :: a :: b :: l)
  | .rot, a :: b :: c :: l => some (.moved c, c :: a :: b :: l)
  | .swap, a :: b :: l => some (.swapped a b, b :: a :: l)
  | .tuck, a :: b :: l => some (.tucked a, a :: b :: a :: l)
  | _, _ => none

theorem isSome_onItems? {r : Rearrangement} {l : List Instruction} (hr : r.readsPosition = false)
    (hl : r.arity ≤ l.length) : (r.onItems? l).isSome := by
  rcases l with _ | ⟨a, _ | ⟨b, _ | ⟨c, _ | ⟨d, _ | ⟨e, _ | ⟨f, l⟩⟩⟩⟩⟩⟩ <;> cases r <;>
    simp_all [onItems?, arity, readsPosition, apply_ite]

end Rearrangement

namespace Effect

open StackM

theorem runRearrangement_of_onItems? (op : Opcode) {r : Rearrangement} {l m : List Instruction}
    {change : Change} (h : r.onItems? l = some (change, m)) :
    runRearrangement op r (ofList l) = .ok change (ofList m) := by
  revert h
  fun_cases Rearrangement.onItems? r l <;> intro h <;> cases h
  all_goals simp [runRearrangement, *]

theorem runRearrangement_of_length_lt (op : Opcode) {r : Rearrangement} {l : List Instruction}
    (h : l.length < r.arity) :
    ∃ t, runRearrangement op r (ofList l) = .error (.stackUnderflow op) t := by
  -- Six items are enough for all; with fewer, each shape of the stack shows where the items end.
  have hsix := r.arity_le_six
  rcases l with _ | ⟨a, _ | ⟨b, _ | ⟨c, _ | ⟨d, _ | ⟨e, _ | ⟨f, l⟩⟩⟩⟩⟩⟩
  case cons.cons.cons.cons.cons.cons =>
    simp only [List.length_cons] at h
    omega
  all_goals cases r <;> simp [Rearrangement.arity] at h <;> simp [runRearrangement, popPosition]

/-- A rearrangement that reads no position succeeds only as `onItems?` says. -/
theorem onItems?_of_runRearrangement {op : Opcode} {r : Rearrangement} {l : List Instruction}
    {change : Change} {t : Stack} (hr : r.readsPosition = false)
    (h : runRearrangement op r (ofList l) = .ok change t) :
    ∃ m, r.onItems? l = some (change, m) ∧ t = ofList m := by
  have hl : r.arity ≤ l.length := by
    by_contra hlt
    obtain ⟨u, hu⟩ := runRearrangement_of_length_lt op (Nat.lt_of_not_le hlt)
    cases hu.symm.trans h
  obtain ⟨⟨other, m⟩, hm⟩ := Option.isSome_iff_exists.mp (Rearrangement.isSome_onItems? hr hl)
  cases (runRearrangement_of_onItems? op hm).symm.trans h
  exact ⟨m, hm, rfl⟩

theorem popPosition_cons (op : Opcode) (x : Instruction) (l : List Instruction) :
    popPosition op (ofList (x :: l)) = match x.number? with
      | some n =>
        if 0 ≤ n.toInt ∧ n.toInt < l.length then .ok n.toInt.toNat (ofList l)
        else .error (.indexOutOfBounds op n.toInt l.length) (ofList l)
      | none => .error (.notNumeric op x) (ofList l) := by
  rw [popPosition, bind_apply, popNumber_cons]
  cases x.number? with
  | none => rfl
  | some n =>
      simp only [bind_apply, size_listed]
      by_cases hn : 0 ≤ n.toInt ∧ n.toInt < l.length
      · rw [if_pos hn, if_pos hn, pure_apply]
      · rw [if_neg hn, if_neg hn, throw_apply]

theorem runRearrangement_pick (op : Opcode) {x : Instruction} {n : Int64} {d : Nat}
    (hx : x.number? = some n) (hn : n.toInt = d) (l : List Instruction) :
    runRearrangement op .pick (ofList (x :: l)) = match l[d]? with
      | some y => .ok (.copiedAt d y) (ofList (y :: l))
      | none => .error (.indexOutOfBounds op d l.length) (ofList l) := by
  rw [runRearrangement, bind_apply, popPosition_cons, hx]
  simp only [hn]
  by_cases hd : d < l.length
  · simp [hd]
  · simp [hd]

theorem runRearrangement_roll (op : Opcode) {x : Instruction} {n : Int64} {d : Nat}
    (hx : x.number? = some n) (hn : n.toInt = d) (l : List Instruction) :
    runRearrangement op .roll (ofList (x :: l)) = match l[d]? with
      | some y => .ok (.takenFrom d y) (ofList (y :: l.eraseIdx d))
      | none => .error (.indexOutOfBounds op d l.length) (ofList l) := by
  rw [runRearrangement, bind_apply, popPosition_cons, hx]
  simp only [hn]
  by_cases hd : d < l.length
  · simp [hd]
  · simp [hd]

/-! ### Counted items -/

/-- Taking off as many items as there are stops at the first one that is not accepted. -/
theorem popAccepted_listed (op : Opcode) (accept : Instruction → Bool)
    (shortfall : Nat → MultisigFault) {received count : Nat} {l : List Instruction}
    (h : count ≤ l.length) :
    popAccepted op accept shortfall received count (ofList l) =
      match (l.take count).findIdx? (fun x => !accept x) with
      | none => .ok (l.take count) (ofList (l.drop count))
      | some j => .error (.multisig op (shortfall (received + j))) (ofList (l.drop (j + 1))) := by
  induction count generalizing received l with
  | zero => simp [popAccepted]
  | succ count ih =>
      obtain ⟨x, l, rfl⟩ := List.exists_cons_of_length_pos (by omega : 0 < l.length)
      have hl : count ≤ l.length := by simpa using h
      cases hx : accept x with
      | false => simp [popAccepted, hx, List.findIdx?_cons]
      | true =>
          simp only [popAccepted, hx, bind_apply, popOperand_cons, Bool.not_true,
            Bool.false_eq_true, if_false, pure_apply, ih hl, List.take_succ_cons,
            List.findIdx?_cons, List.drop_succ_cons]
          cases (l.take count).findIdx? (fun x => !accept x) with
          | none => rfl
          | some j =>
              simp only [Option.map_some]
              rw [show received + 1 + j = received + (j + 1) by omega]

end Effect

/-! ### The checks before an operation -/

theorem Instruction.execute_op (v : Verifier) (op : Opcode) :
    (Instruction.op op).execute v = op.execute v := rfl

namespace Opcode

variable {v : Verifier} {op : Opcode} {s : Stack}

theorem disabled_of_operation? {o : Operation} (hop : op.operation? = some o) :
    op.disabled = false := by
  cases h : op.disabled with
  | false => rfl
  | true => cases (operation?_of_disabled h).symm.trans hop

theorem execute_of_disabled (h : op.disabled = true) :
    op.execute v s = .error (.disabled op) s := by
  simp [execute, h]

theorem execute_of_size_lt (hdisabled : op.disabled = false) (h : s.size < op.argCount) :
    op.execute v s = .error (.insufficientArguments op op.argCount s.size) s := by
  simp [execute, hdisabled, StackM.size, h]

theorem execute_of_le_size (hdisabled : op.disabled = false) (h : op.argCount ≤ s.size) :
    op.execute v s = match op.family? with
      | some family => family.run v op s
      | none => .ok (.unimplemented op) (s.push (.op op)) := by
  have hsize : ¬ s.size < op.argCount := by omega
  simp only [execute, hdisabled, StackM.size, StackM.bind_apply, hsize, Bool.false_eq_true, if_false]
  cases op.family? <;> rfl

/-- An opcode that has an operation is enabled, and with enough items its family carries it out. -/
theorem execute_of_operation? {o : Operation} (hop : op.operation? = some o)
    (h : op.argCount ≤ s.size) : op.execute v s = o.family.run v op s := by
  rw [execute_of_le_size (disabled_of_operation? hop) h, family?_of_operation? hop]

/-- An opcode that is executed has passed both checks. -/
theorem guards_of_execute_ok {report : Report} {t : Stack} (h : op.execute v s = .ok report t) :
    op.disabled = false ∧ op.argCount ≤ s.size := by
  cases hdisabled : op.disabled with
  | true => cases (execute_of_disabled hdisabled).symm.trans h
  | false =>
      refine ⟨rfl, Nat.le_of_not_lt fun hsize => ?_⟩
      cases (execute_of_size_lt hdisabled hsize).symm.trans h

/-- All that executing an opcode can come to: it is disabled, or has too few items, or has no family and is pushed itself, or its family carries it out. -/
theorem execute_cases (v : Verifier) (op : Opcode) (s : Stack) :
    op.execute v s = .error (.disabled op) s ∨
    op.execute v s = .error (.insufficientArguments op op.argCount s.size) s ∨
    op.execute v s = .ok (.unimplemented op) (s.push (.op op)) ∨
    ∃ o, op.operation? = some o ∧ op.argCount ≤ s.size ∧
      op.execute v s = o.family.run v op s := by
  cases hdisabled : op.disabled with
  | true => exact .inl (execute_of_disabled hdisabled)
  | false =>
      by_cases hsize : s.size < op.argCount
      · exact .inr (.inl (execute_of_size_lt hdisabled hsize))
      · have hle : op.argCount ≤ s.size := by omega
        have hexecute := execute_of_le_size (v := v) hdisabled hle
        cases hop : op.operation? with
        | none =>
            rw [family?_of_operation?_none hop] at hexecute
            exact .inr (.inr (.inl hexecute))
        | some o =>
            rw [family?_of_operation? hop] at hexecute
            exact .inr (.inr (.inr ⟨o, rfl, hle, hexecute⟩))

end Opcode

end ScriptTrace
