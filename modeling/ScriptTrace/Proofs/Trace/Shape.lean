import Mathlib.Data.List.Basic
import ScriptTrace.Proofs.Effect.Listed
import ScriptTrace.Proofs.Effect.Outcome
import ScriptTrace.Proofs.Trace.Stepwise

/-!
# The shape of a trace

What a reader may rely on without knowing any opcode. The first step is the setup, every other step belongs to one instruction and holds the script behind it, only the last step can be a failed one, and the verdict and the number of steps tell whether there is one. `Trace.WellFormed` lists these properties; the trace of every script has them.
-/

namespace ScriptTrace

/-- Literals are pushed; everything else is an opcode. -/
def Instruction.isLiteral : Instruction → Bool
  | .op _ => false
  | _ => true

theorem Instruction.truthy_iff {i : Instruction} : i.truthy = true ↔ i ≠ .int 0 ∧ i ≠ .op .num0 := by
  cases i with
  | int n => simp [truthy]
  | marker text => simp [truthy]
  | op code => simp [truthy]

/-! ### The kind of a step -/

theorem Opcode.kind_of_execute {v : Verifier} {op : Opcode} {s t : Stack} {report : Report}
    (h : op.execute v s = .ok report t) :
    report.kind = .executed ∨ report.kind = .unimplemented := by
  rcases op.execute_cases v s with hrun | hrun | hrun | ⟨o, _, _, hrun⟩
  · cases hrun.symm.trans h
  · cases hrun.symm.trans h
  · cases hrun.symm.trans h
    exact .inr rfl
  · exact .inl ((o.family.run_yields v op s).of_ok (hrun.symm.trans h))

namespace Step

theorem kind_ofResult_ne_setup (script : List Instruction)
    (result : EStateM.Result Failure Stack Report) : (ofResult script result).kind ≠ .setup := by
  cases result with
  | ok report s => cases report <;> exact nofun
  | error failure s => exact nofun

theorem failed_ofResult_iff (script : List Instruction)
    (result : EStateM.Result Failure Stack Report) :
    (ofResult script result).failed = true ↔ (ofResult script result).kind = .failed := by
  cases result with
  | ok report s => cases report <;> simp [ofResult, ofReport, Report.kind]
  | error failure s => simp [ofResult, ofFailure]

theorem kind_ofResult_execute_iff (v : Verifier) (script : List Instruction) (i : Instruction)
    (s : Stack) : (ofResult script (i.execute v s)).kind = .push ↔ i.isLiteral = true := by
  cases i with
  | int n => exact ⟨fun _ => rfl, fun _ => rfl⟩
  | marker text => exact ⟨fun _ => rfl, fun _ => rfl⟩
  | op code =>
      refine ⟨fun hkind => ?_, nofun⟩
      change (ofResult script (code.execute v s)).kind = .push at hkind
      cases hexecute : code.execute v s with
      | ok report t =>
          rw [hexecute] at hkind
          change report.kind = .push at hkind
          rcases Opcode.kind_of_execute hexecute with h | h <;> rw [h] at hkind <;> cases hkind
      | error failure t =>
          rw [hexecute] at hkind
          cases hkind

end Step

/-! ### Where a run fails -/

section

variable {v : Verifier} {script : List Instruction} {k : Nat} {step : Step}

theorem failsAt_of_failed (h : (simulate v script).steps[k + 1]? = some step)
    (hfailed : step.failed = true) : Trace.FailsAt v script .empty k := by
  obtain ⟨i, s, hi, hs, rfl⟩ := exists_of_getElem?_steps h
  cases hexecute : i.execute v s with
  | ok report t =>
      rw [hexecute] at hfailed
      cases hfailed
  | error failure t => exact ⟨s, i, failure, t, hs, hi, hexecute⟩

theorem Trace.FailsAt.length_steps (h : Trace.FailsAt v script .empty k) :
    (simulate v script).steps.length = k + 2 := by
  obtain ⟨before, failure, t, hsteps, hlength⟩ := h.stepsFrom_eq
  rw [steps_simulate, hsteps, List.length_cons, List.length_append, hlength, List.length_singleton]

theorem Trace.FailsAt.fails (h : Trace.FailsAt v script .empty k) : (simulate v script).Fails := by
  obtain ⟨before, failure, t, hsteps, _⟩ := h.stepsFrom_eq
  refine ⟨.ofFailure (script.drop (k + 1)) t failure, ?_, rfl⟩
  rw [steps_simulate, hsteps]
  simp

theorem length_steps_of_not_fails (h : ¬ (simulate v script).Fails) :
    (simulate v script).steps.length = script.length + 1 := by
  obtain ⟨s, hs⟩ := exists_stackAfter?_of_not_fails h
  rw [steps_simulate, List.length_cons, Trace.length_stepsFrom_of_some hs]

theorem exists_failsAt_of_fails (h : (simulate v script).Fails) :
    ∃ k, Trace.FailsAt v script .empty k :=
  Trace.exists_failsAt_of_none (simulate_fails_iff.mp h)

/-- All instructions have a step unless one before the last fails. -/
theorem length_steps_eq_iff : (simulate v script).steps.length = script.length + 1 ↔
    ¬ (simulate v script).Fails ∨ ∃ k, k + 1 = script.length ∧ Trace.FailsAt v script .empty k := by
  constructor
  · intro hlength
    by_cases hfails : (simulate v script).Fails
    · obtain ⟨k, hk⟩ := exists_failsAt_of_fails hfails
      have hsteps := hk.length_steps
      exact .inr ⟨k, by omega, hk⟩
    · exact .inl hfails
  · rintro (hfails | ⟨k, hlast, hk⟩)
    · exact length_steps_of_not_fails hfails
    · have hsteps := hk.length_steps
      omega

theorem valid_simulate_iff : (simulate v script).valid = true ↔ ¬ (simulate v script).Fails ∧
    ∃ last top, (simulate v script).steps.getLast? = some last ∧ last.stack.head? = some top ∧
      top ≠ .int 0 ∧ top ≠ .op .num0 := by
  cases h : Trace.stackAfter? v script .empty with
  | none =>
      have hfails := simulate_fails_iff.mpr h
      rw [valid_simulate_of_none h]
      exact ⟨nofun, fun hvalid => absurd hfails hvalid.1⟩
  | some s =>
      have hnot : ¬ (simulate v script).Fails := by
        rw [simulate_fails_iff, h]
        exact nofun
      obtain ⟨_, last, hlast, hstack⟩ := simulate_of_some h
      rw [valid_simulate_of_some h, Option.any_eq_true, ← hstack]
      constructor
      · rintro ⟨top, htop, htruthy⟩
        exact ⟨hnot, last, top, hlast, htop, Instruction.truthy_iff.mp htruthy⟩
      · rintro ⟨_, other, top, hother, htop, hzero⟩
        obtain rfl := Option.some.inj (hlast.symm.trans hother)
        exact ⟨top, htop, Instruction.truthy_iff.mpr hzero⟩

theorem isSome_failure?_simulate_iff :
    (simulate v script).failure?.isSome = true ↔ (simulate v script).Fails := by
  cases h : Trace.stackAfter? v script .empty with
  | none =>
      obtain ⟨last, hlast, hfailed⟩ := simulate_of_none h
      rw [Trace.failure?, hlast, Option.filter_some, hfailed]
      exact ⟨fun _ => simulate_fails_iff.mpr h, fun _ => rfl⟩
  | some s =>
      obtain ⟨hnone, last, hlast, _⟩ := simulate_of_some h
      rw [Trace.failure?, hlast, Option.filter_some, hnone last (List.mem_of_getLast? hlast),
        simulate_fails_iff, h]
      exact ⟨nofun, nofun⟩

end

/-! ### The whole trace -/

/-- What every trace of a script is like. Steps are counted from zero, the setup. -/
structure Trace.WellFormed (v : Verifier) (script : List Instruction) (t : Trace) : Prop where
  /-- Taking step after step comes to an end, with this trace. -/
  finish_eq : (Execution.start v script).finish = t
  head_eq : t.steps.head? = some (.setup script)
  kind_setup_iff : ∀ k step, t.steps[k]? = some step → (step.kind = .setup ↔ k = 0)
  script_eq : ∀ k step, t.steps[k]? = some step → step.script = script.drop k
  kind_push_iff : ∀ k step, t.steps[k + 1]? = some step →
    (step.kind = .push ↔ ∃ i, script[k]? = some i ∧ i.isLiteral = true)
  failed_iff : ∀ step ∈ t.steps, step.failed = true ↔ step.kind = .failed
  failed_last : ∀ k step, t.steps[k]? = some step → step.failed = true → k + 1 = t.steps.length
  /-- Without a failed step there is one for each instruction, and with one only if it is the last instruction that failed. -/
  length_iff : t.steps.length = script.length + 1 ↔
    ¬ t.Fails ∨ ∃ k, k + 1 = script.length ∧ FailsAt v script .empty k
  /-- A failed run has a step for each instruction up to the first that fails. -/
  length_of_fails : t.Fails → ∃ k, FailsAt v script .empty k ∧ t.steps.length = k + 2
  fails_of_failsAt : ∀ k, FailsAt v script .empty k → t.Fails ∧ t.steps.length = k + 2
  valid_iff : t.valid = true ↔ ¬ t.Fails ∧ ∃ last top, t.steps.getLast? = some last ∧
    last.stack.head? = some top ∧ top ≠ .int 0 ∧ top ≠ .op .num0
  failure?_iff : t.failure?.isSome = true ↔ t.Fails

/-- **Every trace is well-formed.** -/
theorem simulate_wellFormed (v : Verifier) (script : List Instruction) :
    (simulate v script).WellFormed v script where
  finish_eq := Execution.finish_start v script
  head_eq := rfl
  kind_setup_iff := by
    intro k step h
    cases k with
    | zero =>
        cases h
        exact ⟨fun _ => rfl, fun _ => rfl⟩
    | succ k =>
        obtain ⟨i, s, _, _, rfl⟩ := exists_of_getElem?_steps h
        exact ⟨fun hkind => absurd hkind (Step.kind_ofResult_ne_setup _ _), nofun⟩
  script_eq := fun _ _ => script_of_getElem?_steps
  kind_push_iff := by
    intro k step h
    obtain ⟨i, s, hi, _, rfl⟩ := exists_of_getElem?_steps h
    rw [Step.kind_ofResult_execute_iff, hi]
    simp
  failed_iff := by
    intro step hstep
    obtain ⟨k, hk⟩ := List.mem_iff_getElem?.mp hstep
    cases k with
    | zero =>
        cases hk
        exact ⟨nofun, nofun⟩
    | succ k =>
        obtain ⟨i, s, _, _, rfl⟩ := exists_of_getElem?_steps hk
        exact Step.failed_ofResult_iff _ _
  failed_last := by
    intro k step h hfailed
    cases k with
    | zero =>
        cases h
        cases hfailed
    | succ k => exact (failsAt_of_failed h hfailed).length_steps.symm
  length_iff := length_steps_eq_iff
  length_of_fails := by
    intro hfails
    obtain ⟨k, hk⟩ := exists_failsAt_of_fails hfails
    exact ⟨k, hk, hk.length_steps⟩
  fails_of_failsAt := fun k hk => ⟨hk.fails, hk.length_steps⟩
  valid_iff := valid_simulate_iff
  failure?_iff := isSome_failure?_simulate_iff

/-- The number of steps alone does not tell whether a run failed: here every instruction has a step, and the last one failed. -/
theorem length_steps_dup_of_fails :
    ¬ ((simulate .placeholder [.op .dup]).steps.length = [Instruction.op .dup].length + 1 ↔
      ¬ (simulate .placeholder [.op .dup]).Fails) := by
  intro h
  have hlength : (simulate .placeholder [.op .dup]).steps.length =
      [Instruction.op .dup].length + 1 := by decide +kernel
  exact h.mp hlength (simulate_fails_iff.mpr (by decide +kernel))

end ScriptTrace
