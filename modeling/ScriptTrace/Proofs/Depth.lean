import Mathlib.Data.List.Basic
import ScriptTrace.Proofs.Leftover

/-!
# The depth of the stack

How much deeper or shallower the stack becomes with each instruction is known beforehand, up to two exceptions: `OP_IFDUP` looks at the item on top, and the multiple checks take as many items as the counts say. `Instruction.depthChange` is the table, opcode by opcode. That the operations keep to it is followed line by line: a computation `Shifts` the depth by a fixed number if what it pushes and slips in, less what it pops and takes out, comes to that number, and the rules below do one line each.

No instruction adds more than three items, so the depth is at most three times the number of steps. The number that `OP_DEPTH` pushes is a signed word, and in a script of up to three times 10^18 instructions no stack gets deep enough for it to wrap.
-/

namespace ScriptTrace

open Stack (ofList)

/-! ### The table -/

/-- How many items the count at a position announces. -/
def announcedAt (s : List Instruction) (position : Nat) : Nat :=
  ((s[position]?.bind Instruction.value?).getD 0).toNat

/-- By how much an opcode that does not fail changes the depth of the stack. The keys of a multiple check begin below their count, and below them is the count of the signatures. -/
def Opcode.depthChange (s : List Instruction) : Opcode → Int
  | .dup3 => 3
  | .dup2 | .over2 => 2
  | .depth | .dup | .over | .tuck => 1
  | .ifDup => if s.head?.any (·.truthy) then 1 else 0
  | .add1 | .sub1 | .negate | .abs | .not | .notEqual0 => 0
  | .swap | .rot | .swap2 | .rot2 | .pick => 0
  | .add | .sub | .boolAnd | .boolOr | .numEqual | .numEqualVerify | .numNotEqual | .lessThan
  | .greaterThan | .lessThanOrEqual | .greaterThanOrEqual | .min | .max => -1
  | .equal | .equalVerify | .verify | .checkSig | .checkSigVerify | .drop | .nip | .roll => -1
  | .drop2 | .within => -2
  | .checkMultisig | .checkMultisigVerify =>
    -(announcedAt s 0 + announcedAt s (announcedAt s 0 + 1) + 1)
  -- All others are pushed themselves.
  | _ => 1

def Instruction.depthChange (s : List Instruction) : Instruction → Int
  | .op code => code.depthChange s
  | _ => 1

def Rearrangement.depthChange (s : List Instruction) : Rearrangement → Int
  | .dup3 => 3
  | .dup2 | .over2 => 2
  | .depth | .dup | .over | .tuck => 1
  | .ifDup => if s.head?.any (·.truthy) then 1 else 0
  | .swap | .rot | .swap2 | .rot2 | .pick => 0
  | .drop | .nip | .roll => -1
  | .drop2 => -2

/-- The same by operations, as the proofs follow them. -/
def Operation.depthChange (s : List Instruction) : Operation → Int
  | .rearrange r => r.depthChange s
  | .unary _ => 0
  | .binary _ | .numEqualVerify | .equal _ | .verify | .checkSig _ => -1
  | .within => -2
  | .checkMultisig _ => -(announcedAt s 0 + announcedAt s (announcedAt s 0 + 1) + 1)

/-- The two tables agree, and what has no operation is pushed. -/
theorem Opcode.depthChange_eq_elim_operation? (s : List Instruction) (op : Opcode) :
    op.depthChange s = op.operation?.elim 1 (Operation.depthChange s) := by
  cases op <;> rfl

theorem Rearrangement.depthChange_le_three (s : List Instruction) (r : Rearrangement) :
    r.depthChange s ≤ 3 := by
  fun_cases depthChange s r <;> omega

theorem Operation.depthChange_le_three (s : List Instruction) (o : Operation) :
    o.depthChange s ≤ 3 := by
  cases o with
  | rearrange r => exact r.depthChange_le_three s
  | _ =>
      simp only [depthChange]
      omega

theorem Instruction.depthChange_le_three (s : List Instruction) (i : Instruction) :
    i.depthChange s ≤ 3 := by
  cases i with
  | op code =>
      rw [depthChange, Opcode.depthChange_eq_elim_operation?]
      cases code.operation? with
      | none =>
          show (1 : Int) ≤ 3
          omega
      | some o => exact o.depthChange_le_three s
  | _ =>
      simp only [depthChange]
      omega

/-! ### Computations that shift the depth -/

namespace StackM

variable {α β : Type} {op : Opcode} {d : Int}

/-- Whenever the computation succeeds, the stack is deeper by the given number than before. -/
def Shifts (x : StackM α) (d : Int) : Prop :=
  ∀ s, x.Ensures s (fun _ t => (t.size : Int) = s.size + d) fun _ _ => True

theorem Shifts.pure {a : α} (hd : d = 0) : (Pure.pure a : StackM α).Shifts d := by
  intro s
  show (s.size : Int) = s.size + d
  omega

theorem Shifts.throw {failure : Failure} : (MonadExcept.throw failure : StackM α).Shifts d :=
  fun _ => trivial

theorem Shifts.bind {x : StackM α} {f : α → StackM β} {e : Int} (hx : x.Shifts e)
    (hf : ∀ a, (f a).Shifts (d - e)) : (x >>= f).Shifts d := by
  intro s
  refine (hx s).bind fun a t ht => (hf a t).mono fun b u hu => ?_
  omega

theorem Shifts.size : StackM.size.Shifts 0 := by
  intro s
  show (s.size : Int) = s.size + 0
  omega

theorem Shifts.push {item : Instruction} : (StackM.push item).Shifts 1 := by
  intro s
  obtain ⟨l, rfl⟩ := s.exists_eq_ofList
  simp [Ensures]

theorem Shifts.popOperand : (StackM.popOperand op).Shifts (-1) := by
  intro s
  obtain ⟨l, rfl⟩ := s.exists_eq_ofList
  cases l with
  | nil => trivial
  | cons x l =>
      simp only [Ensures, popOperand_cons, Stack.size_ofList, List.length_cons]
      omega

theorem Shifts.popNumber : (StackM.popNumber op).Shifts (-1) := by
  refine .bind .popOperand fun item => ?_
  split
  · exact .pure rfl
  · exact .throw

theorem Shifts.pushNumber {n : Int} : (StackM.pushNumber op n).Shifts 1 := by
  rw [StackM.pushNumber]
  split
  · exact .push
  · exact .throw

theorem Shifts.operandAt {position : Nat} : (StackM.operandAt op position).Shifts 0 := by
  intro s
  obtain ⟨l, rfl⟩ := s.exists_eq_ofList
  rw [Ensures, operandAt_listed]
  cases l[position]? <;> simp

theorem Shifts.removeAt {position : Nat} : (StackM.removeAt op position).Shifts (-1) := by
  intro s
  obtain ⟨l, rfl⟩ := s.exists_eq_ofList
  rw [Ensures, removeAt_listed]
  cases hitem : l[position]? with
  | none => trivial
  | some item =>
      have hposition : position < l.length := (List.getElem?_eq_some_iff.mp hitem).1
      simp only [Stack.size_ofList, List.length_eraseIdx_of_lt hposition]
      omega

theorem Shifts.insertAt {position : Nat} {item : Instruction} :
    (StackM.insertAt op position item).Shifts 1 := by
  intro s
  obtain ⟨l, rfl⟩ := s.exists_eq_ofList
  rw [Ensures, insertAt_listed]
  by_cases hposition : position ≤ l.length
  · simp [hposition, List.length_insertIdx]
  · simp [hposition]

theorem Shifts.swapAt {position other : Nat} : (StackM.swapAt op position other).Shifts 0 := by
  intro s
  obtain ⟨l, rfl⟩ := s.exists_eq_ofList
  rw [Ensures, swapAt_listed]
  by_cases h : position < l.length ∧ other < l.length
  · simp [h]
  · simp [h]

end StackM

/-! ### The operations -/

namespace Effect

open StackM

variable {op : Opcode}

theorem unary_shifts : (unary op).Shifts 0 := by
  refine .bind .popNumber fun x => ?_
  split
  · exact .bind .pushNumber fun _ => .pure rfl
  · exact .throw

theorem binary_shifts : (binary op).Shifts (-1) := by
  refine .bind .popNumber fun a => .bind .popNumber fun b => ?_
  split
  · exact .bind .pushNumber fun _ => .pure rfl
  · split
    · exact .bind .push fun _ => .pure rfl
    · exact .throw
  · exact .throw

theorem within_shifts : (within op).Shifts (-2) :=
  .bind .popNumber fun _ => .bind .popNumber fun _ => .bind .popNumber fun _ =>
    .bind .push fun _ => .pure rfl

theorem equal_shifts : (equal op).Shifts (-1) := by
  refine .bind .popOperand fun a => .bind .popOperand fun b => .bind .push fun _ => ?_
  dsimp only
  split
  · exact .bind (e := 0) .throw fun _ => .pure rfl
  · exact .pure rfl

theorem verify_shifts : (verify op).Shifts (-1) := by
  refine .bind .popOperand fun a => ?_
  split
  · exact .pure rfl
  · exact .throw

theorem conclude_shifts (check : Check) (passed enforced : Bool) :
    (conclude op check passed enforced).Shifts 1 := by
  rw [conclude]
  split
  · exact .bind (e := 0) .throw fun _ => .bind .push fun _ => .pure rfl
  · exact .bind .push fun _ => .pure rfl

theorem checkSig_shifts (v : Verifier) (enforced : Bool) : (checkSig v op enforced).Shifts (-1) :=
  .bind .popOperand fun _ => .bind .popOperand fun _ => conclude_shifts _ _ _

theorem popPosition_shifts : (popPosition op).Shifts (-1) := by
  refine .bind .popNumber fun n => .bind .size fun size => ?_
  split
  · exact .pure rfl
  · exact .throw

/-- All rearrangements but one have a shift that does not depend on the items. -/
theorem runRearrangement_shifts {r : Rearrangement} (hr : r ≠ .ifDup) (s : List Instruction) :
    (runRearrangement op r).Shifts (r.depthChange s) := by
  -- One rule for each line of the operation; at its end the account has to be at zero.
  cases r with
  | depth => exact .bind .size fun _ => .bind .push fun _ => .pure rfl
  | dup => exact .bind .operandAt fun _ => .bind .push fun _ => .pure rfl
  | drop => exact .bind .popOperand fun _ => .pure rfl
  | drop2 => exact .bind .popOperand fun _ => .bind .popOperand fun _ => .pure rfl
  | dup2 =>
      exact .bind .operandAt fun _ => .bind .operandAt fun _ => .bind .push fun _ =>
        .bind .push fun _ => .pure rfl
  | dup3 =>
      exact .bind .operandAt fun _ => .bind .operandAt fun _ => .bind .operandAt fun _ =>
        .bind .push fun _ => .bind .push fun _ => .bind .push fun _ => .pure rfl
  | over2 =>
      exact .bind .operandAt fun _ => .bind .operandAt fun _ => .bind .push fun _ =>
        .bind .push fun _ => .pure rfl
  | rot2 =>
      exact .bind .removeAt fun _ => .bind .removeAt fun _ => .bind .push fun _ =>
        .bind .push fun _ => .pure rfl
  | swap2 =>
      exact .bind .operandAt fun _ => .bind .operandAt fun _ => .bind .operandAt fun _ =>
        .bind .operandAt fun _ => .bind .swapAt fun _ => .bind .swapAt fun _ => .pure rfl
  | ifDup => exact absurd rfl hr
  | nip => exact .bind .removeAt fun _ => .pure rfl
  | «over» => exact .bind .operandAt fun _ => .bind .push fun _ => .pure rfl
  | pick =>
      exact .bind popPosition_shifts fun _ => .bind .operandAt fun _ => .bind .push fun _ => .pure rfl
  | roll =>
      exact .bind popPosition_shifts fun _ => .bind .removeAt fun _ => .bind .push fun _ => .pure rfl
  | rot => exact .bind .removeAt fun _ => .bind .push fun _ => .pure rfl
  | swap =>
      exact .bind .operandAt fun _ => .bind .operandAt fun _ => .bind .swapAt fun _ => .pure rfl
  | tuck => exact .bind .operandAt fun _ => .bind .insertAt fun _ => .pure rfl

theorem ifDup_ensures (s : List Instruction) :
    (runRearrangement op .ifDup).Ensures (ofList s)
      (fun _ t => (t.size : Int) = s.length + Rearrangement.ifDup.depthChange s) fun _ _ => True := by
  cases s with
  | nil => trivial
  | cons x s =>
      rw [Ensures, runRearrangement, bind_apply, operandAt_listed]
      cases hx : x.truthy with
      | true => simp [Rearrangement.depthChange, hx]
      | false => simp [Rearrangement.depthChange, hx]

theorem rearrange_ensures {r : Rearrangement} (hop : op.operation? = some (.rearrange r))
    (s : List Instruction) :
    (rearrange op).Ensures (ofList s)
      (fun _ t => (t.size : Int) = s.length + r.depthChange s) fun _ _ => True := by
  have hchange : (runRearrangement op r).Ensures (ofList s)
      (fun _ t => (t.size : Int) = s.length + r.depthChange s) fun _ _ => True := by
    by_cases hr : r = .ifDup
    · subst hr
      exact ifDup_ensures s
    · have hshifts : (runRearrangement op r).Shifts (r.depthChange s) := runRearrangement_shifts hr s
      simpa only [Stack.size_ofList] using hshifts (ofList s)
  rw [rearrange, hop]
  exact hchange.bind fun _ _ ht => ht

end Effect

/-! ### Multiple checks -/

namespace MultisigOperands

variable {v : Verifier} (o : MultisigOperands v)

theorem announcedAt_pubkeys : announcedAt o.stack 0 = o.pubkeys.length := by
  have hcount : o.pubkeyCount.value? = some (o.pubkeys.length : Int) := o.pubkeyCount_eq
  simp [announcedAt, stack, hcount]

theorem announcedAt_signatures :
    announcedAt o.stack (o.pubkeys.length + 1) = o.signatures.length := by
  have hcount : o.signatureCount.value? = some (o.signatures.length : Int) := o.signatureCount_eq
  simp [announcedAt, stack, hcount]

theorem length_stack :
    o.stack.length = o.pubkeys.length + o.signatures.length + o.rest.length + 2 := by
  simp only [stack, List.length_cons, List.length_append]
  omega

theorem depthChange_stack (enforced : Bool) :
    (Operation.checkMultisig enforced).depthChange o.stack =
      -(o.pubkeys.length + o.signatures.length + 1) := by
  simp only [Operation.depthChange, announcedAt_pubkeys, announcedAt_signatures]

end MultisigOperands

section

variable {v : Verifier} {op : Opcode} {report : Report} {s : List Instruction} {t : Stack}

/-- A multiple check that succeeds has found its operands. -/
theorem Opcode.exists_operands_of_execute_ok {enforced : Bool}
    (hop : op.operation? = some (.checkMultisig enforced))
    (h : op.execute v (ofList s) = .ok report t) : ∃ o : MultisigOperands v, s = o.stack := by
  rcases exists_operands_or_execute_error (v := v) hop s with hoperands | ⟨failure, u, herror, _⟩
  · exact hoperands
  · cases herror.symm.trans h

theorem Opcode.size_of_execute_checkMultisig {enforced : Bool}
    (hop : op.operation? = some (.checkMultisig enforced))
    (h : op.execute v (ofList s) = .ok report t) :
    (t.size : Int) = s.length + (Operation.checkMultisig enforced).depthChange s := by
  obtain ⟨o, rfl⟩ := exists_operands_of_execute_ok hop h
  rw [execute_multisigOperands hop] at h
  have hshift := (Effect.conclude_shifts _ _ _ _).of_ok h
  rw [Stack.size_ofList] at hshift
  rw [o.depthChange_stack, o.length_stack]
  omega

theorem Opcode.exists_operands_depthChange {enforced : Bool}
    (h : (Instruction.op op).execute v (ofList s) = .ok report t)
    (hop : op.operation? = some (.checkMultisig enforced)) :
    ∃ o : MultisigOperands v, s = o.stack ∧ (Instruction.op op).depthChange s =
      -((o.pubkeys.length : Int) + o.signatures.length + 1) := by
  obtain ⟨o, rfl⟩ := exists_operands_of_execute_ok hop h
  refine ⟨o, rfl, ?_⟩
  rw [Instruction.depthChange, depthChange_eq_elim_operation?, hop, Option.elim_some,
    o.depthChange_stack]

/-! ### One instruction -/

theorem Operation.size_of_execute {o : Operation} (hop : op.operation? = some o)
    (h : op.execute v (ofList s) = .ok report t) : (t.size : Int) = s.length + o.depthChange s := by
  have hexecute := Opcode.execute_of_operation? (v := v) hop (Opcode.guards_of_execute_ok h).2
  rw [← Stack.size_ofList s]
  cases o with
  | unary f => exact (Effect.unary_shifts _).of_ok (hexecute.symm.trans h)
  | binary f => exact (Effect.binary_shifts _).of_ok (hexecute.symm.trans h)
  | numEqualVerify => exact (Effect.binary_shifts _).of_ok (hexecute.symm.trans h)
  | within => exact (Effect.within_shifts _).of_ok (hexecute.symm.trans h)
  | rearrange r =>
      rw [Stack.size_ofList]
      exact (Effect.rearrange_ensures hop s).of_ok (hexecute.symm.trans h)
  | equal enforced => exact (Effect.equal_shifts _).of_ok (hexecute.symm.trans h)
  | verify => exact (Effect.verify_shifts _).of_ok (hexecute.symm.trans h)
  | checkSig enforced =>
      have hrun := hexecute.symm.trans h
      change Effect.checkSignatures v op (ofList s) = _ at hrun
      rw [Effect.checkSignatures, hop] at hrun
      exact (Effect.checkSig_shifts v enforced _).of_ok hrun
  | checkMultisig enforced =>
      rw [Stack.size_ofList]
      exact Opcode.size_of_execute_checkMultisig hop h

/-- An instruction that succeeds changes the depth by what the table says. -/
theorem Instruction.size_of_execute_ok {i : Instruction} (h : i.execute v (ofList s) = .ok report t) :
    (t.size : Int) = s.length + i.depthChange s := by
  cases i with
  | int n =>
      cases h
      simp [depthChange]
  | marker text =>
      cases h
      simp [depthChange]
  | op code =>
      rw [depthChange, Opcode.depthChange_eq_elim_operation?]
      cases hop : code.operation? with
      | some o => exact Operation.size_of_execute hop h
      | none =>
          have hguards := Opcode.guards_of_execute_ok h
          rw [execute_op, Opcode.execute_of_le_size hguards.1 hguards.2,
            Opcode.family?_of_operation?_none hop] at h
          cases h
          simp

/-- An instruction that fails leaves no more than there was, except for the flag of an equality test. -/
theorem Instruction.size_of_execute_error {i : Instruction} {failure : Failure}
    (h : i.execute v (ofList s) = .error failure t) : t.size ≤ s.length + 1 := by
  cases i with
  | int n => cases h
  | marker text => cases h
  | op code =>
      have hleftover := Opcode.leftover_of_execute_error h
      rw [← Stack.length_toList]
      by_cases hequal : code = .equalVerify
      · by_cases hrefused : code.Refused s
        · rw [hleftover.refused hrefused]
          omega
        · rw [hleftover.equalVerify hrefused hequal, List.length_cons, List.length_drop]
          omega
      · have hle := (hleftover.suffix hequal).length_le
        omega

end

/-! ### Runs -/

/-- No instruction adds more than three items. -/
theorem Trace.size_le_of_stackAfter? {v : Verifier} {script : List Instruction} {s t : Stack}
    (hrun : stackAfter? v script s = some t) : t.size ≤ s.size + 3 * script.length := by
  induction script, s using run_induction v with
  | nil s =>
      cases hrun
      omega
  | ok i rest s report u h ih =>
      rw [stackAfter?_cons_of_ok h] at hrun
      have hrest := ih hrun
      obtain ⟨l, rfl⟩ := s.exists_eq_ofList
      have hstep := Instruction.size_of_execute_ok h
      have hthree := i.depthChange_le_three l
      rw [Stack.size_ofList, List.length_cons]
      omega
  | error i rest s failure u h =>
      rw [stackAfter?_cons_of_error h] at hrun
      cases hrun

section

variable {v : Verifier} {script : List Instruction} {k : Nat}

theorem length_stack_le_of_getElem?_steps {step : Step}
    (h : (simulate v script).steps[k]? = some step) : step.stack.length ≤ 3 * k := by
  cases k with
  | zero =>
      cases h
      exact Nat.le_refl 0
  | succ k =>
      obtain ⟨i, s, _, hs, rfl⟩ := exists_of_getElem?_steps h
      have hbefore := Trace.size_le_of_stackAfter? hs
      have htake : (script.take k).length ≤ k := List.length_take_le k script
      have hempty : Stack.empty.size = 0 := rfl
      obtain ⟨l, rfl⟩ := s.exists_eq_ofList
      rw [Stack.size_ofList] at hbefore
      cases hexecute : i.execute v (ofList l) with
      | ok report t =>
          have hstep := Instruction.size_of_execute_ok hexecute
          have hthree := i.depthChange_le_three l
          show t.toList.length ≤ 3 * (k + 1)
          rw [Stack.length_toList]
          omega
      | error failure t =>
          have hstep := Instruction.size_of_execute_error hexecute
          show t.toList.length ≤ 3 * (k + 1)
          rw [Stack.length_toList]
          omega

variable {before after : Step}

theorem length_stack_of_consecutive_steps (hbefore : (simulate v script).steps[k]? = some before)
    (hafter : (simulate v script).steps[k + 1]? = some after) (hfailed : after.failed = false) :
    ∃ i report, before.script = i :: after.script ∧
      i.execute v (ofList before.stack) = .ok report (ofList after.stack) ∧
      (after.stack.length : Int) = before.stack.length + i.depthChange before.stack := by
  obtain ⟨i, rest, hscript, rfl⟩ := exists_of_consecutive_steps hbefore hafter
  cases hexecute : i.execute v (ofList before.stack) with
  | error failure t =>
      rw [hexecute] at hfailed
      cases hfailed
  | ok report t =>
      refine ⟨i, report, hscript, ?_, ?_⟩
      · show _ = EStateM.Result.ok report (ofList t.toList)
        rw [Stack.ofList_toList, hexecute]
      · show (t.toList.length : Int) = _
        rw [Stack.length_toList]
        exact Instruction.size_of_execute_ok hexecute

/-- `OP_DEPTH` never fails. It pushes the depth as a signed word. -/
theorem stack_of_depth_step {rest : List Instruction}
    (hbefore : (simulate v script).steps[k]? = some before)
    (hafter : (simulate v script).steps[k + 1]? = some after)
    (hscript : before.script = .op .depth :: rest) :
    after.failed = false ∧ after.stack = .int (.ofNat before.stack.length) :: before.stack := by
  obtain ⟨i, rest', hnext, rfl⟩ := exists_of_consecutive_steps hbefore hafter
  rw [hscript] at hnext
  cases hnext
  have hexecute : Opcode.depth.execute v (ofList before.stack) =
      Effect.rearrange .depth (ofList before.stack) :=
    Opcode.execute_of_operation? (o := .rearrange .depth) rfl (Nat.zero_le _)
  rw [Instruction.execute_op, hexecute]
  simp [Effect.rearrange, Opcode.operation?, Effect.runRearrangement, Step.ofResult, Step.ofReport]

/-- While instructions are left there were fewer steps than instructions, so the depth is in the range of literals. -/
theorem toInt_ofNat_length_stack (hscript : script.length ≤ 3000000000000000000)
    (hbefore : (simulate v script).steps[k]? = some before) (hnext : before.script ≠ []) :
    (Int64.ofNat before.stack.length).toInt = before.stack.length := by
  have hdepth := length_stack_le_of_getElem?_steps hbefore
  have hk : k < script.length := by
    rw [script_of_getElem?_steps hbefore] at hnext
    by_contra hle
    exact hnext (List.drop_eq_nil_of_le (Nat.le_of_not_lt hle))
  apply Int64.toInt_ofNat_of_lt
  omega

end

/-- **Depth accounting.** A step that does not fail changes the depth of the stack by the number in the table, which for a multiple check is one less than the keys, the signatures and the two counts it takes off. After `k` steps, failed or not, there are at most `3 * k` items. So in a script of at most three times 10^18 instructions `OP_DEPTH` always pushes the depth itself. -/
theorem simulate_depth_accounting (v : Verifier) (script : List Instruction) :
    (∀ k before after, (simulate v script).steps[k]? = some before →
      (simulate v script).steps[k + 1]? = some after → after.failed = false →
      ∃ i, before.script = i :: after.script ∧
        (after.stack.length : Int) = before.stack.length + i.depthChange before.stack ∧
        (i = .op .checkMultisig ∨ i = .op .checkMultisigVerify → ∃ o : MultisigOperands v,
          before.stack = o.stack ∧
            i.depthChange before.stack = -((o.pubkeys.length : Int) + o.signatures.length + 1))) ∧
    (∀ k step, (simulate v script).steps[k]? = some step → step.stack.length ≤ 3 * k) ∧
    (script.length ≤ 3000000000000000000 → ∀ k before after rest,
      (simulate v script).steps[k]? = some before → (simulate v script).steps[k + 1]? = some after →
      before.script = .op .depth :: rest →
      ∃ n : Int64, after.stack = .int n :: before.stack ∧ n.toInt = before.stack.length) := by
  refine ⟨?_, fun k step h => length_stack_le_of_getElem?_steps h, ?_⟩
  · intro k before after hbefore hafter hfailed
    obtain ⟨i, report, hscript, hexecute, hlength⟩ :=
      length_stack_of_consecutive_steps hbefore hafter hfailed
    refine ⟨i, hscript, hlength, ?_⟩
    rintro (rfl | rfl)
    · exact Opcode.exists_operands_depthChange hexecute rfl
    · exact Opcode.exists_operands_depthChange hexecute rfl
  · intro hlength k before after rest hbefore hafter hscript
    refine ⟨_, (stack_of_depth_step hbefore hafter hscript).2, ?_⟩
    apply toInt_ofNat_length_stack hlength hbefore
    rw [hscript]
    exact List.cons_ne_nil _ _

/-- A multiple check with one key and one signature takes four items and leaves one, a true item is doubled, and the depth is two. -/
theorem simulate_depth_accounting_multisig :
    (simulate .placeholder [.marker "SIG1", .int 1, .marker "PK1", .int 1, .op .checkMultisig,
      .op .ifDup, .op .depth]).steps.map (·.stack.length) = [0, 1, 2, 3, 4, 1, 2, 3] ∧
    ∃ n : Int64, (simulate .placeholder [.marker "SIG1", .int 1, .marker "PK1", .int 1,
      .op .checkMultisig, .op .ifDup, .op .depth]).finalStack = [.int n, .int 1, .int 1] ∧
      n.toInt = 2 := by
  refine ⟨by decide +kernel, ?_⟩
  obtain ⟨n, hstack, hn⟩ := (simulate_depth_accounting .placeholder [.marker "SIG1", .int 1,
    .marker "PK1", .int 1, .op .checkMultisig, .op .ifDup, .op .depth]).2.2 (by decide) 6
      ⟨[.op .depth], [.int 1, .int 1],
        "Performed IFDUP; <1> is true; Duplicated <1>, and pushed it to stack", false, .executed⟩
      ⟨[], [.int 2, .int 1, .int 1], "Performed DEPTH; Pushed <2> to stack", false, .executed⟩ []
      (by decide +kernel) (by decide +kernel) rfl
  refine ⟨n, ?_, hn⟩
  rw [← hstack]
  decide +kernel

end ScriptTrace
