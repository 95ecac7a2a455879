import Mathlib.Data.List.Basic
import ScriptTrace.Proofs.Effect.Listed
import ScriptTrace.Proofs.Effect.Outcome
import ScriptTrace.Proofs.Trace.Run

/-!
# Where items come from

Operations move items about and push integers, and make nothing else. So if every integer has some property, and every item on the stack, then every item that any operation leaves has it, be it after a success or after a failure. Only literals, and opcodes that are enabled and have no family, get onto the stack by being executed themselves. Hence markers and opcodes on a stack are those of the part of the script that was executed.
-/

namespace ScriptTrace

open Stack (ofList)

/-- Every item on the stack has the property. -/
def Stack.All (p : Instruction → Prop) (s : Stack) : Prop := ∀ item ∈ s.toList, p item

theorem Stack.all_ofList {p : Instruction → Prop} {l : List Instruction} :
    (ofList l).All p ↔ ∀ item ∈ l, p item := by
  rw [Stack.All, toList_ofList]

theorem Stack.All.push {p : Instruction → Prop} {s : Stack} {item : Instruction} (hs : s.All p)
    (hitem : p item) : (s.push item).All p := by
  obtain ⟨l, rfl⟩ := s.exists_eq_ofList
  rw [push_ofList, all_ofList]
  rw [all_ofList] at hs
  simpa using ⟨hitem, hs⟩

/-! ### Computations that keep a property of items -/

namespace StackM

variable {α β : Type} {p : Instruction → Prop}

/-- If the items on the stack have the property, so have those that the computation leaves, even where it fails; and its value is as described. -/
def Keeps (p : Instruction → Prop) (x : StackM α) (value : α → Prop) : Prop :=
  ∀ s : Stack, s.All p → x.Ensures s (fun a t => value a ∧ t.All p) fun _ t => t.All p

theorem Keeps.pure {a : α} {value : α → Prop} (h : value a) :
    (Pure.pure a : StackM α).Keeps p value := fun _ hs => ⟨h, hs⟩

theorem Keeps.throw {failure : Failure} {value : α → Prop} :
    (MonadExcept.throw failure : StackM α).Keeps p value := fun _ hs => hs

theorem Keeps.bind {x : StackM α} {f : α → StackM β} {between : α → Prop} {value : β → Prop}
    (hx : x.Keeps p between) (hf : ∀ a, between a → (f a).Keeps p value) :
    (x >>= f).Keeps p value := by
  intro s hs
  exact (hx s hs).bind fun a t h => hf a h.1 t h.2

theorem Keeps.throw_bind {failure : Failure} {f : α → StackM β} {value : β → Prop} :
    (MonadExcept.throw failure >>= f).Keeps p value := fun _ hs => hs

theorem Keeps.size : StackM.size.Keeps p fun _ => True := fun _ hs => ⟨trivial, hs⟩

theorem Keeps.push {item : Instruction} (h : p item) : (StackM.push item).Keeps p fun _ => True :=
  fun _ hs => ⟨trivial, hs.push h⟩

variable (op : Opcode)

theorem Keeps.popOperand : (StackM.popOperand op).Keeps p p := by
  intro s hs
  obtain ⟨l, rfl⟩ := s.exists_eq_ofList
  cases l with
  | nil => exact hs
  | cons x l =>
      rw [Stack.all_ofList, List.forall_mem_cons] at hs
      rw [Ensures, popOperand_cons]
      exact ⟨hs.1, Stack.all_ofList.mpr hs.2⟩

theorem Keeps.popNumber : (StackM.popNumber op).Keeps p fun _ => True := by
  refine .bind (.popOperand op) fun item _ => ?_
  split
  · exact .pure trivial
  · exact .throw

theorem Keeps.pushNumber (hint : ∀ n, p (.int n)) (n : Int) :
    (StackM.pushNumber op n).Keeps p fun _ => True := by
  rw [StackM.pushNumber, Instruction.ofInt?]
  split
  · rename_i literal hliteral
    obtain ⟨_, heq⟩ := Option.ite_none_right_eq_some.mp hliteral
    cases heq
    exact .push (hint _)
  · exact .throw

theorem Keeps.operandAt (d : Nat) : (StackM.operandAt op d).Keeps p p := by
  intro s hs
  obtain ⟨l, rfl⟩ := s.exists_eq_ofList
  rw [Ensures, operandAt_listed]
  cases hd : l[d]? with
  | none => exact hs
  | some x => exact ⟨Stack.all_ofList.mp hs x (List.mem_of_getElem? hd), hs⟩

theorem Keeps.removeAt (d : Nat) : (StackM.removeAt op d).Keeps p p := by
  intro s hs
  obtain ⟨l, rfl⟩ := s.exists_eq_ofList
  have hl := Stack.all_ofList.mp hs
  rw [Ensures, removeAt_listed]
  cases hd : l[d]? with
  | none => exact hs
  | some x =>
      refine ⟨hl x (List.mem_of_getElem? hd), Stack.all_ofList.mpr fun item hitem => ?_⟩
      exact hl item (List.mem_of_mem_eraseIdx hitem)

theorem Keeps.insertAt (d : Nat) {item : Instruction} (h : p item) :
    (StackM.insertAt op d item).Keeps p fun _ => True := by
  intro s hs
  obtain ⟨l, rfl⟩ := s.exists_eq_ofList
  have hl := Stack.all_ofList.mp hs
  rw [Ensures, insertAt_listed]
  by_cases hd : d ≤ l.length
  · rw [if_pos hd]
    refine ⟨trivial, Stack.all_ofList.mpr fun other hother => ?_⟩
    rcases (List.mem_insertIdx hd).mp hother with rfl | hother
    · exact h
    · exact hl other hother
  · rw [if_neg hd]
    exact hs

theorem Keeps.swapAt (d e : Nat) : (StackM.swapAt op d e).Keeps p fun _ => True := by
  intro s hs
  obtain ⟨l, rfl⟩ := s.exists_eq_ofList
  have hl := Stack.all_ofList.mp hs
  rw [Ensures, swapAt_listed]
  by_cases hde : d < l.length ∧ e < l.length
  · rw [dif_pos hde]
    refine ⟨trivial, Stack.all_ofList.mpr fun item hitem => ?_⟩
    rcases List.mem_or_eq_of_mem_set hitem with hitem | rfl
    · rcases List.mem_or_eq_of_mem_set hitem with hitem | rfl
      · exact hl item hitem
      · exact hl _ (List.getElem_mem _)
    · exact hl _ (List.getElem_mem _)
  · rw [dif_neg hde]
    exact hs

end StackM

/-! ### The operations -/

namespace Effect

open StackM

variable {p : Instruction → Prop} (hint : ∀ n, p (.int n)) (op : Opcode)

include hint

theorem unary_keeps : (unary op).Keeps p fun _ => True := by
  refine .bind (.popNumber op) fun x _ => ?_
  split
  · exact .bind (.pushNumber op hint _) fun _ _ => .pure trivial
  · exact .throw

theorem binary_keeps : (binary op).Keeps p fun _ => True := by
  refine .bind (.popNumber op) fun a _ => .bind (.popNumber op) fun b _ => ?_
  split
  · exact .bind (.pushNumber op hint _) fun _ _ => .pure trivial
  · split
    · exact .bind (.push (hint _)) fun _ _ => .pure trivial
    · exact .throw
  · exact .throw

theorem within_keeps : (within op).Keeps p fun _ => True :=
  .bind (.popNumber op) fun _ _ => .bind (.popNumber op) fun _ _ => .bind (.popNumber op) fun _ _ =>
    .bind (.push (hint _)) fun _ _ => .pure trivial

theorem equal_keeps : (equal op).Keeps p fun _ => True := by
  refine .bind (.popOperand op) fun a _ => .bind (.popOperand op) fun b _ =>
    .bind (.push (hint _)) fun _ _ => ?_
  dsimp only
  split
  · exact .throw_bind
  · exact .pure trivial

omit hint in
theorem verify_keeps : (verify op).Keeps p fun _ => True := by
  refine .bind (.popOperand op) fun a _ => ?_
  split
  · exact .pure trivial
  · exact .throw

omit hint in
theorem popPosition_keeps : (popPosition op).Keeps p fun _ => True := by
  refine .bind (.popNumber op) fun n _ => .bind .size fun size _ => ?_
  split
  · exact .pure trivial
  · exact .throw

theorem runRearrangement_keeps (r : Rearrangement) :
    (runRearrangement op r).Keeps p fun _ => True := by
  cases r with
  | depth => exact .bind .size fun n _ => .bind (.push (hint _)) fun _ _ => .pure trivial
  | dup =>
      exact .bind (.operandAt op 0) fun a ha => .bind (.push ha) fun _ _ => .pure trivial
  | drop => exact .bind (.popOperand op) fun _ _ => .pure trivial
  | drop2 =>
      exact .bind (.popOperand op) fun _ _ => .bind (.popOperand op) fun _ _ => .pure trivial
  | dup2 =>
      exact .bind (.operandAt op 0) fun a ha => .bind (.operandAt op 1) fun b hb =>
        .bind (.push hb) fun _ _ => .bind (.push ha) fun _ _ => .pure trivial
  | dup3 =>
      exact .bind (.operandAt op 0) fun a ha => .bind (.operandAt op 1) fun b hb =>
        .bind (.operandAt op 2) fun c hc => .bind (.push hc) fun _ _ =>
          .bind (.push hb) fun _ _ => .bind (.push ha) fun _ _ => .pure trivial
  | over2 =>
      exact .bind (.operandAt op 2) fun c hc => .bind (.operandAt op 3) fun d hd =>
        .bind (.push hd) fun _ _ => .bind (.push hc) fun _ _ => .pure trivial
  | rot2 =>
      exact .bind (.removeAt op 4) fun e he => .bind (.removeAt op 4) fun f hf =>
        .bind (.push hf) fun _ _ => .bind (.push he) fun _ _ => .pure trivial
  | swap2 =>
      exact .bind (.operandAt op 0) fun _ _ => .bind (.operandAt op 1) fun _ _ =>
        .bind (.operandAt op 2) fun _ _ => .bind (.operandAt op 3) fun _ _ =>
          .bind (.swapAt op 0 2) fun _ _ => .bind (.swapAt op 1 3) fun _ _ => .pure trivial
  | ifDup =>
      refine .bind (.operandAt op 0) fun a ha => ?_
      split
      · exact .bind (.push ha) fun _ _ => .pure trivial
      · exact .pure trivial
  | nip => exact .bind (.removeAt op 1) fun _ _ => .pure trivial
  | «over» => exact .bind (.operandAt op 1) fun b hb => .bind (.push hb) fun _ _ => .pure trivial
  | pick =>
      exact .bind (popPosition_keeps op) fun position _ => .bind (.operandAt op position) fun a ha =>
        .bind (.push ha) fun _ _ => .pure trivial
  | roll =>
      exact .bind (popPosition_keeps op) fun position _ => .bind (.removeAt op position) fun a ha =>
        .bind (.push ha) fun _ _ => .pure trivial
  | rot => exact .bind (.removeAt op 2) fun c hc => .bind (.push hc) fun _ _ => .pure trivial
  | swap =>
      exact .bind (.operandAt op 0) fun _ _ => .bind (.operandAt op 1) fun _ _ =>
        .bind (.swapAt op 0 1) fun _ _ => .pure trivial
  | tuck =>
      exact .bind (.operandAt op 0) fun a ha => .bind (.insertAt op 2 ha) fun _ _ => .pure trivial

theorem rearrange_keeps : (rearrange op).Keeps p fun _ => True := by
  rw [rearrange]
  split
  · exact .bind (runRearrangement_keeps hint op _) fun _ _ => .pure trivial
  · exact .throw

theorem conclude_keeps (check : Check) (passed enforced : Bool) :
    (conclude op check passed enforced).Keeps p fun _ => True := by
  rw [conclude]
  split
  · exact .throw_bind
  · exact .bind (.push (hint _)) fun _ _ => .pure trivial

omit hint in
theorem popAccepted_keeps (accept : Instruction → Bool) (shortfall : Nat → MultisigFault)
    (received count : Nat) :
    (popAccepted op accept shortfall received count).Keeps p fun items => ∀ item ∈ items, p item := by
  induction count generalizing received with
  | zero => exact .pure nofun
  | succ count ih =>
      refine .bind (.popOperand op) fun item hitem => ?_
      dsimp only
      split
      · exact .throw_bind
      · exact .bind (ih _) fun items hitems => .pure (List.forall_mem_cons.mpr ⟨hitem, hitems⟩)

omit hint in
theorem popPubkeys_keeps (v : Verifier) :
    (popPubkeys v op).Keeps p fun items => ∀ item ∈ items, p item := by
  refine .bind (.popNumber op) fun needed _ => .bind .size fun size _ => ?_
  split
  · exact popAccepted_keeps op _ _ _ _
  · exact .throw

omit hint in
theorem popSignatures_keeps (v : Verifier) (pubkeys : Nat) :
    (popSignatures v op pubkeys).Keeps p fun items => ∀ item ∈ items, p item := by
  refine .bind .size fun n _ => ?_
  split
  · exact .throw_bind
  · refine .bind (.popNumber op) fun needed _ => .bind .size fun size _ => ?_
    split
    · exact popAccepted_keeps op _ _ _ _
    · exact .throw

theorem checkSignatures_keeps (v : Verifier) : (checkSignatures v op).Keeps p fun _ => True := by
  rw [checkSignatures]
  split
  · exact .bind (.popOperand op) fun _ _ => .bind (.popOperand op) fun _ _ =>
      conclude_keeps hint op _ _ _
  · exact .bind (popPubkeys_keeps op v) fun pubkeys _ =>
      .bind (popSignatures_keeps op v pubkeys.length) fun _ _ => conclude_keeps hint op _ _ _
  · exact .throw

end Effect

theorem Family.run_keeps {p : Instruction → Prop} (hint : ∀ n, p (.int n)) (v : Verifier)
    (op : Opcode) (family : Family) : (family.run v op).Keeps p fun _ => True := by
  cases family with
  | unaryArithmetic => exact Effect.unary_keeps hint op
  | binaryArithmetic => exact Effect.binary_keeps hint op
  | within => exact Effect.within_keeps hint op
  | stackManipulation => exact Effect.rearrange_keeps hint op
  | equality => exact Effect.equal_keeps hint op
  | verify => exact Effect.verify_keeps op
  | signature => exact Effect.checkSignatures_keeps hint op v

/-! ### One instruction -/

/-- An opcode gets onto the stack itself only if it is enabled and has no family. -/
theorem Opcode.execute_keeps {p : Instruction → Prop} (hint : ∀ n, p (.int n)) (v : Verifier)
    {op : Opcode} (hop : op.disabled = false → op.family? = none → p (.op op)) :
    (op.execute v).Keeps p fun _ => True := by
  intro s hs
  rw [StackM.Ensures]
  cases hdisabled : op.disabled with
  | true =>
      rw [execute_of_disabled hdisabled]
      exact hs
  | false =>
      by_cases hsize : s.size < op.argCount
      · rw [execute_of_size_lt hdisabled hsize]
        exact hs
      · rw [execute_of_le_size hdisabled (by omega)]
        cases hfamily : op.family? with
        | some family => exact Family.run_keeps hint v op family s hs
        | none => exact ⟨trivial, hs.push (hop hdisabled hfamily)⟩

/-- Where an item on the stack can come from, if the given instructions were executed. -/
inductive Instruction.StemsFrom (consumed : List Instruction) : Instruction → Prop where
  /-- Integers are pushed, and made by operations. -/
  | int (n : Int64) : StemsFrom consumed (.int n)
  /-- Markers are only pushed. -/
  | marker {text : String} (hmem : .marker text ∈ consumed) : StemsFrom consumed (.marker text)
  /-- So are opcodes, and of these only the ones that mean nothing. -/
  | op {code : Opcode} (hmem : .op code ∈ consumed) (hdisabled : code.disabled = false)
      (hfamily : code.family? = none) : StemsFrom consumed (.op code)

namespace Instruction

theorem all_stemsFrom_append {consumed more : List Instruction} {s : Stack}
    (hs : s.All (StemsFrom consumed)) : s.All (StemsFrom (consumed ++ more)) := by
  intro item hitem
  cases hs item hitem with
  | int n => exact .int n
  | marker hmem => exact .marker (List.mem_append_left _ hmem)
  | op hmem hdisabled hfamily => exact .op (List.mem_append_left _ hmem) hdisabled hfamily

theorem execute_keeps_stemsFrom (v : Verifier) (i : Instruction) (consumed : List Instruction) :
    (i.execute v).Keeps (StemsFrom (consumed ++ [i])) fun _ => True := by
  have hmem : i ∈ consumed ++ [i] := List.mem_append_right _ (List.mem_singleton_self i)
  cases i with
  | int n => exact .bind (.push (.int n)) fun _ _ => .pure trivial
  | marker text => exact .bind (.push (.marker hmem)) fun _ _ => .pure trivial
  | op code => exact Opcode.execute_keeps .int v fun hdisabled hfamily => .op hmem hdisabled hfamily

variable {v : Verifier} {i : Instruction} {consumed : List Instruction} {s t : Stack}

theorem stemsFrom_of_execute_ok {report : Report} (hs : s.All (StemsFrom consumed))
    (h : i.execute v s = .ok report t) : t.All (StemsFrom (consumed ++ [i])) :=
  ((i.execute_keeps_stemsFrom v consumed s (all_stemsFrom_append hs)).of_ok h).2

theorem stemsFrom_of_execute_error {failure : Failure} (hs : s.All (StemsFrom consumed))
    (h : i.execute v s = .error failure t) : t.All (StemsFrom (consumed ++ [i])) :=
  (i.execute_keeps_stemsFrom v consumed s (all_stemsFrom_append hs)).of_error h

end Instruction

/-! ### Runs -/

/-- What a script leaves stems from the script, and from what its start stack stems from. -/
theorem Trace.all_stemsFrom_of_stackAfter? {v : Verifier} {consumed script : List Instruction}
    {s t : Stack} (hs : s.All (Instruction.StemsFrom consumed))
    (hrun : stackAfter? v script s = some t) :
    t.All (Instruction.StemsFrom (consumed ++ script)) := by
  induction script, s using run_induction v generalizing consumed with
  | nil s =>
      cases hrun
      rw [List.append_nil]
      exact hs
  | ok i rest s report u h ih =>
      rw [stackAfter?_cons_of_ok h] at hrun
      have hrest := ih (Instruction.stemsFrom_of_execute_ok hs h) hrun
      rw [List.append_assoc, List.singleton_append] at hrest
      exact hrest
  | error i rest s failure u h =>
      rw [stackAfter?_cons_of_error h] at hrun
      cases hrun

theorem Trace.all_stemsFrom_script {v : Verifier} {script : List Instruction} {s : Stack}
    (hrun : stackAfter? v script .empty = some s) : s.All (Instruction.StemsFrom script) := by
  have hstart : Stack.empty.All (Instruction.StemsFrom []) := by
    rw [Stack.empty_eq, Stack.all_ofList]
    exact nofun
  exact all_stemsFrom_of_stackAfter? hstart hrun

theorem stemsFrom_of_mem_stack {v : Verifier} {script : List Instruction} {k : Nat} {step : Step}
    (h : (simulate v script).steps[k]? = some step) {item : Instruction}
    (hitem : item ∈ step.stack) : item.StemsFrom (script.take k) := by
  cases k with
  | zero =>
      cases h
      cases hitem
  | succ k =>
      obtain ⟨i, s, hi, hs, rfl⟩ := exists_of_getElem?_steps h
      have hbefore : s.All (Instruction.StemsFrom (script.take k)) := Trace.all_stemsFrom_script hs
      -- An instruction counts as executed in its own step, also if it fails there.
      rw [List.take_add_one, hi]
      cases hexecute : i.execute v s with
      | ok report t =>
          rw [hexecute] at hitem
          exact Instruction.stemsFrom_of_execute_ok hbefore hexecute item hitem
      | error failure t =>
          rw [hexecute] at hitem
          exact Instruction.stemsFrom_of_execute_error hbefore hexecute item hitem

/-- **Provenance.** In every step, failed or not, the markers on the stack are markers of the part of the script that was executed, and the opcodes on it are opcodes of that part that are enabled and have no family. All else is integers. -/
theorem stack_stemsFrom_consumed (v : Verifier) (script : List Instruction) (k : Nat) (step : Step)
    (h : (simulate v script).steps[k]? = some step) :
    script.take k ++ step.script = script ∧
      ∀ item ∈ step.stack, item.StemsFrom (script.take k) := by
  refine ⟨?_, fun item hitem => stemsFrom_of_mem_stack h hitem⟩
  rw [script_of_getElem?_steps h, List.take_append_drop]

/-- A failed `OP_EQUALVERIFY` leaves a zero that nobody pushed, on an opcode and a marker that the script did push. -/
theorem stack_stemsFrom_consumed_equalVerify :
    (simulate .placeholder [.marker "SIGNATURE", .op .hash160, .int 3, .op .num1, .op .equalVerify,
      .int 4]).steps[5]? = some ⟨[.int 4], [.int 0, .op .hash160, .marker "SIGNATURE"],
        "Performed EQUALVERIFY; <OP_1> is not equal to <3>; Pushed <0> to stack; Verify failed", true,
        .failed⟩ ∧
    ∀ item ∈ [.int 0, .op .hash160, .marker "SIGNATURE"], Instruction.StemsFrom
      [.marker "SIGNATURE", .op .hash160, .int 3, .op .num1, .op .equalVerify] item := by
  have h : (simulate .placeholder [.marker "SIGNATURE", .op .hash160, .int 3, .op .num1,
      .op .equalVerify, .int 4]).steps[5]? = some ⟨[.int 4],
        [.int 0, .op .hash160, .marker "SIGNATURE"],
        "Performed EQUALVERIFY; <OP_1> is not equal to <3>; Pushed <0> to stack; Verify failed", true,
        .failed⟩ := by
    decide +kernel
  exact ⟨h, (stack_stemsFrom_consumed .placeholder _ 5 _ h).2⟩

end ScriptTrace
