import Mathlib.Data.List.Basic
import ScriptTrace.Proofs.Effect.Listed
import ScriptTrace.Proofs.Trace.Composition
import ScriptTrace.Proofs.Trace.Shape

/-!
# Items below

What lies below the items a script works on does not matter to it. A computation is `Local` if every success of it is repeated, with the same value, on a stack with more items below, and those are left alone. Binding keeps this, so it holds of a composite computation if it holds of its lines. The one line for which it fails is the one that asks for the size; what saves the operations that do so is that they only ask whether there is enough. `OP_DEPTH` asks for more and is not local.

A script without `OP_DEPTH` therefore runs after another one as it runs alone, step by step and word for word, on top of what the other one left.
-/

namespace ScriptTrace

open Stack (ofList)

/-- The stack with further items below it. -/
def Stack.above (s : Stack) (below : List Instruction) : Stack := ofList (s.toList ++ below)

namespace Stack

@[simp] theorem above_ofList (l below : List Instruction) : (ofList l).above below = ofList (l ++ below) := by
  rw [above, toList_ofList]

@[simp] theorem toList_above (s : Stack) (below : List Instruction) :
    (s.above below).toList = s.toList ++ below := by
  rw [above, toList_ofList]

@[simp] theorem size_above (s : Stack) (below : List Instruction) :
    (s.above below).size = s.size + below.length := by
  rw [above, size_ofList, List.length_append, length_toList]

theorem push_above (s : Stack) (below : List Instruction) (item : Instruction) :
    (s.above below).push item = (s.push item).above below := by
  obtain ⟨l, rfl⟩ := s.exists_eq_ofList
  simp

theorem empty_above (s : Stack) : empty.above s.toList = s := by
  rw [empty_eq, above_ofList, List.nil_append, ofList_toList]

end Stack

/-! ### Local computations -/

namespace StackM

variable {α β : Type}

/-- Whenever the computation succeeds, it does the same with more items below, which it leaves there. -/
def Local (x : StackM α) : Prop :=
  ∀ ⦃s t : Stack⦄ ⦃a : α⦄, x s = .ok a t → ∀ below, x (s.above below) = .ok a (t.above below)

theorem Local.pure (a : α) : (Pure.pure a : StackM α).Local := by
  intro s t b h below
  cases h
  rfl

theorem Local.throw (failure : Failure) : (MonadExcept.throw failure : StackM α).Local := by
  intro s t b h
  cases h

theorem Local.bind {x : StackM α} {f : α → StackM β} (hx : x.Local) (hf : ∀ a, (f a).Local) :
    (x >>= f).Local := by
  intro s t b h below
  rw [bind_apply] at h ⊢
  cases hxs : x s with
  | ok a u =>
      rw [hxs] at h
      rw [hx hxs below]
      exact hf a h below
  | error failure u =>
      rw [hxs] at h
      cases h

/-- What would come after a failure does not matter. -/
theorem Local.throw_bind (failure : Failure) (f : α → StackM β) :
    (MonadExcept.throw failure >>= f).Local := by
  intro s t b h
  cases h

/-- Asking for the size is harmless if a larger answer makes no difference to a success. -/
theorem Local.size_bind {f : Nat → StackM α} (hf : ∀ n, (f n).Local)
    (hmono : ∀ n k s a t, f n s = .ok a t → f (n + k) s = .ok a t) : (size >>= f).Local := by
  intro s t a h below
  change f s.size s = .ok a t at h
  change f (s.above below).size (s.above below) = _
  rw [Stack.size_above]
  exact hmono _ _ _ _ _ (hf _ h below)

/-- In particular it may be asked whether the stack is large enough to go on. -/
theorem Local.size_guard {p : Nat → Prop} [DecidablePred p] {x : StackM α} {failure : Nat → Failure}
    (hx : x.Local) (hp : ∀ n k, p n → p (n + k)) :
    (size >>= fun n => if p n then x else MonadExcept.throw (failure n)).Local := by
  refine .size_bind (fun n => ?_) fun n k s a t h => ?_
  · split
    · exact hx
    · exact .throw _
  · by_cases hn : p n
    · rw [if_pos hn] at h
      rw [if_pos (hp n k hn)]
      exact h
    · rw [if_neg hn] at h
      cases h

variable (op : Opcode)

theorem push_local (item : Instruction) : (push item).Local := by
  intro s t a h below
  cases h
  rw [push, Stack.push_above]

theorem popOperand_local : (popOperand op).Local := by
  intro s t a h below
  obtain ⟨l, rfl⟩ := s.exists_eq_ofList
  cases l with
  | nil => cases h
  | cons x l =>
      rw [popOperand_cons] at h
      cases h
      simp

theorem popNumber_local : (popNumber op).Local := by
  refine .bind (popOperand_local op) fun item => ?_
  split
  · exact .pure _
  · exact .throw _

theorem pushNumber_local (n : Int) : (pushNumber op n).Local := by
  rw [pushNumber]
  split
  · exact push_local _
  · exact .throw _

theorem operandAt_local (d : Nat) : (operandAt op d).Local := by
  intro s t a h below
  obtain ⟨l, rfl⟩ := s.exists_eq_ofList
  rw [operandAt_listed] at h
  cases hd : l[d]? with
  | none =>
      rw [hd] at h
      cases h
  | some x =>
      rw [hd] at h
      cases h
      have hlt : d < l.length := (List.getElem?_eq_some_iff.mp hd).1
      rw [Stack.above_ofList, operandAt_listed, List.getElem?_append_left hlt, hd]

theorem removeAt_local (d : Nat) : (removeAt op d).Local := by
  intro s t a h below
  obtain ⟨l, rfl⟩ := s.exists_eq_ofList
  rw [removeAt_listed] at h
  cases hd : l[d]? with
  | none =>
      rw [hd] at h
      cases h
  | some x =>
      rw [hd] at h
      cases h
      have hlt : d < l.length := (List.getElem?_eq_some_iff.mp hd).1
      rw [Stack.above_ofList, Stack.above_ofList, removeAt_listed, List.getElem?_append_left hlt, hd,
        List.eraseIdx_append_of_lt_length hlt]

end StackM

/-! ### The operations -/

/-- Only `depth` makes something of the items that it does not look at. -/
theorem Rearrangement.onItems?_append {r : Rearrangement} (hr : r ≠ .depth)
    {l m : List Instruction} {change : Change} (h : r.onItems? l = some (change, m))
    (below : List Instruction) : r.onItems? (l ++ below) = some (change, m ++ below) := by
  revert h
  fun_cases Rearrangement.onItems? r l <;> intro h <;> cases h
  all_goals first | exact absurd rfl hr | simp [onItems?, *]

namespace Effect

open StackM

variable (op : Opcode)

theorem unary_local : (unary op).Local := by
  refine .bind (popNumber_local op) fun x => ?_
  split
  · exact .bind (pushNumber_local op _) fun _ => .pure _
  · exact .throw _

theorem binary_local : (binary op).Local := by
  refine .bind (popNumber_local op) fun a => .bind (popNumber_local op) fun b => ?_
  split
  · exact .bind (pushNumber_local op _) fun _ => .pure _
  · split
    · exact .bind (push_local _) fun _ => .pure _
    · exact .throw _
  · exact .throw _

theorem within_local : (within op).Local :=
  .bind (popNumber_local op) fun _ => .bind (popNumber_local op) fun _ =>
    .bind (popNumber_local op) fun _ => .bind (push_local _) fun _ => .pure _

theorem equal_local : (equal op).Local := by
  refine .bind (popOperand_local op) fun a => .bind (popOperand_local op) fun b =>
    .bind (push_local _) fun _ => ?_
  dsimp only
  split
  · exact .throw_bind _ _
  · exact .pure _

theorem verify_local : (verify op).Local := by
  refine .bind (popOperand_local op) fun a => ?_
  split
  · exact .pure _
  · exact .throw _

theorem popPosition_local : (popPosition op).Local :=
  .bind (popNumber_local op) fun n =>
    .size_guard (.pure _) fun size k h => ⟨h.1, by omega⟩

theorem runRearrangement_local {r : Rearrangement} (hr : r ≠ .depth) :
    (runRearrangement op r).Local := by
  cases hposition : r.readsPosition with
  | true =>
      rcases Rearrangement.readsPosition_iff.mp hposition with rfl | rfl
      · exact .bind (popPosition_local op) fun n => .bind (operandAt_local op n) fun _ =>
          .bind (push_local _) fun _ => .pure _
      · exact .bind (popPosition_local op) fun n => .bind (removeAt_local op n) fun _ =>
          .bind (push_local _) fun _ => .pure _
  | false =>
      intro s t change h below
      obtain ⟨l, rfl⟩ := s.exists_eq_ofList
      obtain ⟨m, hm, rfl⟩ := onItems?_of_runRearrangement hposition h
      rw [Stack.above_ofList, Stack.above_ofList]
      exact runRearrangement_of_onItems? op (Rearrangement.onItems?_append hr hm below)

theorem rearrange_local (hop : op.operation? ≠ some (.rearrange .depth)) : (rearrange op).Local := by
  rw [rearrange]
  split
  · rename_i r hr
    have hdepth : r ≠ .depth := by
      rintro rfl
      exact hop hr
    exact .bind (runRearrangement_local op hdepth) fun _ => .pure _
  · exact .throw _

theorem conclude_local (check : Check) (passed enforced : Bool) :
    (conclude op check passed enforced).Local := by
  rw [conclude]
  split
  · exact .throw_bind _ _
  · exact .bind (push_local _) fun _ => .pure _

theorem popAccepted_local (accept : Instruction → Bool) (shortfall : Nat → MultisigFault)
    (received count : Nat) : (popAccepted op accept shortfall received count).Local := by
  induction count generalizing received with
  | zero => exact .pure _
  | succ count ih =>
      refine .bind (popOperand_local op) fun item => ?_
      dsimp only
      split
      · exact .throw_bind _ _
      · exact .bind (ih _) fun _ => .pure _

theorem popPubkeys_local (v : Verifier) : (popPubkeys v op).Local :=
  .bind (popNumber_local op) fun needed =>
    .size_guard (popAccepted_local op _ _ _ _) fun size k h => ⟨h.1, by omega⟩

theorem popSignatures_local (v : Verifier) (pubkeys : Nat) : (popSignatures v op pubkeys).Local := by
  -- The first question is whether there is anything at all, the second whether there is enough.
  refine .size_bind (fun n => ?_) fun n k s a t h => ?_
  · split
    · exact .throw_bind _ _
    · exact .bind (popNumber_local op) fun needed =>
        .size_guard (popAccepted_local op _ _ _ _) fun size k h => ⟨h.1, h.2.1, by omega⟩
  · by_cases hn : n = 0
    · rw [if_pos hn] at h
      cases h
    · rw [if_neg hn] at h
      rw [if_neg (by omega)]
      exact h

theorem checkSignatures_local (v : Verifier) : (checkSignatures v op).Local := by
  rw [checkSignatures]
  split
  · exact .bind (popOperand_local op) fun _ => .bind (popOperand_local op) fun _ =>
      conclude_local op _ _ _
  · exact .bind (popPubkeys_local op v) fun pubkeys =>
      .bind (popSignatures_local op v pubkeys.length) fun _ => conclude_local op _ _ _
  · exact .throw _

end Effect

theorem Family.run_local (v : Verifier) {op : Opcode} (hop : op ≠ .depth) (family : Family) :
    (family.run v op).Local := by
  cases family with
  | unaryArithmetic => exact Effect.unary_local op
  | binaryArithmetic => exact Effect.binary_local op
  | within => exact Effect.within_local op
  | stackManipulation =>
      refine Effect.rearrange_local op fun hdepth => hop ?_
      cases op <;> cases hdepth
      rfl
  | equality => exact Effect.equal_local op
  | verify => exact Effect.verify_local op
  | signature => exact Effect.checkSignatures_local op v

theorem Opcode.execute_local (v : Verifier) {op : Opcode} (hop : op ≠ .depth) :
    (op.execute v).Local := by
  intro s t report h below
  obtain ⟨hdisabled, hsize⟩ := guards_of_execute_ok h
  have hsizeAbove : op.argCount ≤ (s.above below).size := by
    rw [Stack.size_above]
    omega
  rw [execute_of_le_size hdisabled hsize] at h
  rw [execute_of_le_size hdisabled hsizeAbove]
  cases hfamily : op.family? with
  | some family =>
      rw [hfamily] at h
      exact Family.run_local v hop family h below
  | none =>
      rw [hfamily] at h
      cases h
      dsimp only
      rw [Stack.push_above]

theorem Instruction.execute_local (v : Verifier) {i : Instruction} (hi : i ≠ .op .depth) :
    (i.execute v).Local := by
  cases i with
  | int n => exact .bind (StackM.push_local _) fun _ => .pure _
  | marker text => exact .bind (StackM.push_local _) fun _ => .pure _
  | op code =>
      refine Opcode.execute_local v ?_
      rintro rfl
      exact hi rfl

/-! ### Runs -/

/-- The same step with further items below. -/
def Step.above (below : List Instruction) (step : Step) : Step :=
  { step with stack := step.stack ++ below }

namespace Trace

variable {v : Verifier} {script : List Instruction} {s t : Stack}

theorem stackAfter?_above (hdepth : .op .depth ∉ script) (hrun : stackAfter? v script s = some t)
    (below : List Instruction) :
    stackAfter? v script (s.above below) = some (t.above below) := by
  induction script, s using run_induction v with
  | nil s =>
      cases hrun
      rfl
  | ok i rest s report u h ih =>
      rw [List.mem_cons, not_or] at hdepth
      rw [stackAfter?_cons_of_ok h] at hrun
      have habove := Instruction.execute_local v (Ne.symm hdepth.1) h below
      rw [stackAfter?_cons_of_ok habove, ih hdepth.2 hrun]
  | error i rest s failure u h =>
      rw [stackAfter?_cons_of_error h] at hrun
      cases hrun

theorem stepsFrom_above (hdepth : .op .depth ∉ script) (hrun : stackAfter? v script s = some t)
    (below : List Instruction) :
    stepsFrom v script (s.above below) = (stepsFrom v script s).map (Step.above below) := by
  induction script, s using run_induction v with
  | nil s => rfl
  | ok i rest s report u h ih =>
      rw [List.mem_cons, not_or] at hdepth
      rw [stackAfter?_cons_of_ok h] at hrun
      have habove := Instruction.execute_local v (Ne.symm hdepth.1) h below
      have hstep : Step.ofReport rest (u.above below) report =
          (Step.ofReport rest u report).above below := by
        rw [Step.ofReport, Stack.toList_above]
        rfl
      rw [stepsFrom_cons_of_ok habove, stepsFrom_cons_of_ok h, List.map_cons, ih hdepth.2 hrun, hstep]
  | error i rest s failure u h =>
      rw [stackAfter?_cons_of_error h] at hrun
      cases hrun

end Trace

section

variable {v : Verifier} {p a : List Instruction}

/-- After a script that does not fail, the steps of the next one are its own, above what is there. -/
theorem steps_simulate_append_above (hp : ¬ (simulate v p).Fails) (hdepth : .op .depth ∉ a)
    (ha : ¬ (simulate v a).Fails) :
    (simulate v (p ++ a)).steps = (simulate v p).steps.map (Step.extend a) ++
      (simulate v a).steps.tail.map (Step.above (simulate v p).finalStack) := by
  obtain ⟨s, hs⟩ := exists_stackAfter?_of_not_fails hp
  obtain ⟨t, ht⟩ := exists_stackAfter?_of_not_fails ha
  have habove := Trace.stepsFrom_above hdepth ht s.toList
  rw [Stack.empty_above] at habove
  rw [steps_simulate_append, hs, Option.map_some, Option.getD_some, habove, finalStack_simulate hs]
  rfl

theorem not_fails_append (hp : ¬ (simulate v p).Fails) (hdepth : .op .depth ∉ a)
    (ha : ¬ (simulate v a).Fails) : ¬ (simulate v (p ++ a)).Fails := by
  obtain ⟨s, hs⟩ := exists_stackAfter?_of_not_fails hp
  obtain ⟨t, ht⟩ := exists_stackAfter?_of_not_fails ha
  have habove := Trace.stackAfter?_above hdepth ht s.toList
  rw [Stack.empty_above] at habove
  rw [simulate_fails_iff, Trace.stackAfter?_append, hs, Option.bind_some, habove]
  exact nofun

/-- **Frame.** A script that does not fail alone and does not ask for the depth runs after any other as it does alone: no step fails, each says the same, and the stack is its own on top of the one that was left. -/
theorem simulate_append_frame (v : Verifier) (p a : List Instruction) (hp : ¬ (simulate v p).Fails)
    (hdepth : .op .depth ∉ a) (ha : ¬ (simulate v a).Fails) :
    ¬ (simulate v (p ++ a)).Fails ∧
    ∀ i, 1 ≤ i → i ≤ a.length → ∃ framed own,
      (simulate v (p ++ a)).steps[p.length + i]? = some framed ∧
      (simulate v a).steps[i]? = some own ∧
      framed.kind = own.kind ∧ framed.message = own.message ∧ framed.script = own.script ∧
      framed.stack = own.stack ++ (simulate v p).finalStack := by
  refine ⟨not_fails_append hp hdepth ha, fun i hpos hle => ?_⟩
  obtain ⟨k, rfl⟩ : ∃ k, i = k + 1 := ⟨i - 1, by omega⟩
  have hlength : (simulate v a).steps.length = a.length + 1 := length_steps_of_not_fails ha
  have hown : (simulate v a).steps[k + 1]? = some (simulate v a).steps[k + 1] :=
    List.getElem?_eq_getElem (by omega)
  refine ⟨(simulate v a).steps[k + 1].above (simulate v p).finalStack, _, ?_, hown, rfl, rfl, rfl, rfl⟩
  -- The first script has a step for each of its instructions, and one for the setup.
  have hfirst : ((simulate v p).steps.map (Step.extend a)).length = p.length + 1 := by
    rw [List.length_map, length_steps_of_not_fails hp]
  rw [steps_simulate_append_above hp hdepth ha, List.getElem?_append_right (by omega), hfirst,
    show p.length + (k + 1) - (p.length + 1) = k by omega, List.getElem?_map, List.getElem?_tail, hown]
  rfl

/-- A check of one signature among one key, and a roll, above two items that they do not see. -/
theorem simulate_append_frame_checkMultisig :
    ¬ (simulate .placeholder ([.int 9, .marker "PUBKEY"] ++
      [.marker "SIGNATURE", .int 1, .marker "PUBKEY", .int 1, .op .checkMultisig, .op .dup, .int 1,
        .op .roll])).Fails ∧
    ∃ framed own,
      (simulate .placeholder ([.int 9, .marker "PUBKEY"] ++
        [.marker "SIGNATURE", .int 1, .marker "PUBKEY", .int 1, .op .checkMultisig, .op .dup, .int 1,
          .op .roll])).steps[2 + 5]? = some framed ∧
      (simulate .placeholder [.marker "SIGNATURE", .int 1, .marker "PUBKEY", .int 1,
        .op .checkMultisig, .op .dup, .int 1, .op .roll]).steps[5]? = some own ∧
      framed.message = own.message ∧ framed.stack = own.stack ++ [.marker "PUBKEY", .int 9] := by
  have h := simulate_append_frame .placeholder [.int 9, .marker "PUBKEY"]
    [.marker "SIGNATURE", .int 1, .marker "PUBKEY", .int 1, .op .checkMultisig, .op .dup, .int 1,
      .op .roll]
    (by rw [simulate_fails_iff]; decide +kernel) (by decide)
    (by rw [simulate_fails_iff]; decide +kernel)
  obtain ⟨framed, own, hframed, hown, _, hmessage, _, hstack⟩ := h.2 5 (by decide) (by decide)
  exact ⟨h.1, framed, own, hframed, hown, hmessage, hstack⟩

/-- Asking for the depth shows what is below. -/
example : (simulate .placeholder ([.int 9] ++ [.op .depth])).finalStack = [.int 1, .int 9] ∧
    (simulate .placeholder [.op .depth]).finalStack = [.int 0] := by
  decide +kernel

end

end ScriptTrace
