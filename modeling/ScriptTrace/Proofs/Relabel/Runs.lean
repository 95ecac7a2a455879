import Mathlib.Data.List.Forall2
import ScriptTrace.Proofs.Relabel.Effects
import ScriptTrace.Proofs.Trace.Run

/-!
# Runs of relabelled scripts

A script whose instructions are relabelled leaves a relabelled trace, provided that each instruction, executed under its new label on a relabelled stack, does what it does under its own. Messages may differ, and to which degree the kinds of steps may differ is left open here; the verdict does not change.
-/

namespace ScriptTrace

variable {f : Instruction → Instruction} {kinds : StepKind → StepKind → Prop} {v v' : Verifier}

/-- Under its new label the instruction does on a relabelled stack what it does on the stack, and its report is of a related kind. -/
def Instruction.Follows (f : Instruction → Instruction) (kinds : StepKind → StepKind → Prop)
    (v v' : Verifier) (i : Instruction) : Prop :=
  ∃ g : Report → Report, (∀ report : Report, kinds report.kind (g report).kind) ∧
    StackM.Commutes f g (i.execute v) ((f i).execute v')

/-- The second step is the first one relabelled, up to its message and to related kinds. -/
structure Step.Follows (f : Instruction → Instruction) (kinds : StepKind → StepKind → Prop)
    (a b : Step) : Prop where
  script : b.script = a.script.map f
  stack : b.stack = a.stack.map f
  failed : b.failed = a.failed
  kind : kinds a.kind b.kind

theorem Instruction.Follows.of_commutes {i : Instruction} (hkinds : ∀ kind, kinds kind kind)
    (h : StackM.Commutes f (Report.map f) (i.execute v) ((f i).execute v')) :
    i.Follows f kinds v v' := by
  refine ⟨Report.map f, fun report => ?_, h⟩
  rw [Report.kind_map]
  exact hkinds report.kind

namespace Trace

theorem forall₂_stepsFrom {script : List Instruction} (hkinds : ∀ kind, kinds kind kind)
    (hscript : ∀ i ∈ script, i.Follows f kinds v v') (s : Stack) :
    List.Forall₂ (Step.Follows f kinds) (stepsFrom v script s)
      (stepsFrom v' (script.map f) (s.map f)) := by
  induction script, s using run_induction v with
  | nil s => exact .nil
  | ok i rest s report t h ih =>
      rw [List.forall_mem_cons] at hscript
      obtain ⟨g, hkind, hexecute⟩ := hscript.1
      have hi := hexecute s
      rw [h, StackM.mapResult] at hi
      rw [List.map_cons, stepsFrom_cons_of_ok h, stepsFrom_cons_of_ok hi]
      exact .cons ⟨rfl, Stack.toList_map f t, rfl, hkind report⟩ (ih hscript.2)
  | error i rest s failure t h =>
      rw [List.forall_mem_cons] at hscript
      obtain ⟨g, _, hexecute⟩ := hscript.1
      have hi := hexecute s
      rw [h, StackM.mapResult] at hi
      rw [List.map_cons, stepsFrom_cons_of_error h, stepsFrom_cons_of_error hi]
      exact .cons ⟨rfl, Stack.toList_map f t, rfl, hkinds .failed⟩ .nil

/-- The verdict looks at the last step only, and there at the flag and at the truth of the top. -/
theorem accepts_of_forall₂ (htruthy : ∀ i, (f i).truthy = i.truthy) {a b : List Step}
    (h : List.Forall₂ (Step.Follows f kinds) a b) : accepts b = accepts a := by
  have hreverse := List.forall₂_reverse_iff.mpr h
  rw [accepts, accepts, List.getLast?_eq_head?_reverse, List.getLast?_eq_head?_reverse]
  generalize a.reverse = a', b.reverse = b' at hreverse
  cases hreverse with
  | nil => rfl
  | cons hlast _ =>
      simp only [List.head?_cons, Option.any_some, hlast.failed, hlast.stack, List.head?_map,
        Option.any_map, htruthy]

end Trace

theorem simulate_map {script : List Instruction} (hkinds : ∀ kind, kinds kind kind)
    (htruthy : ∀ i, (f i).truthy = i.truthy) (hscript : ∀ i ∈ script, i.Follows f kinds v v') :
    List.Forall₂ (Step.Follows f kinds) (simulate v script).steps (simulate v' (script.map f)).steps ∧
      (simulate v' (script.map f)).valid = (simulate v script).valid := by
  have hsteps : List.Forall₂ (Step.Follows f kinds) (simulate v script).steps
      (simulate v' (script.map f)).steps := by
    refine .cons ⟨rfl, rfl, rfl, hkinds .setup⟩ ?_
    exact Trace.forall₂_stepsFrom hkinds hscript .empty
  exact ⟨hsteps, Trace.accepts_of_forall₂ htruthy hsteps⟩

end ScriptTrace
