import Mathlib.Tactic.MkIffOfInductiveProp
import ScriptTrace.Proofs.Json.Reading
import ScriptTrace.Proofs.Trace.Run
import ScriptTrace.Trace.Render

/-!
# What the JSON text of a trace tells

In JSON an opcode is written as its name and a marker as its text, so a marker that spells the name of an opcode cannot be told from the opcode. Nothing else is lost: the compact texts of two traces are the same if and only if the traces agree in every part of every step and in the verdict, up to this one confusion. The texts of messages and markers may contain anything, also quotes, backslashes and JSON itself.
-/

namespace ScriptTrace

/-- The same instruction, or an opcode and the marker that spells its name. -/
inductive Instruction.LooksLike : Instruction → Instruction → Prop where
  | refl (i : Instruction) : LooksLike i i
  | named (op : Opcode) : LooksLike (.op op) (.marker op.name)
  | naming (op : Opcode) : LooksLike (.marker op.name) (.op op)

/-- Steps that are the same but for instructions that look alike. -/
@[mk_iff] structure Step.LooksLike (step other : Step) : Prop where
  script : List.Forall₂ Instruction.LooksLike step.script other.script
  stack : List.Forall₂ Instruction.LooksLike step.stack other.stack
  message : step.message = other.message
  failed : step.failed = other.failed
  kind : step.kind = other.kind

@[mk_iff] structure Trace.LooksLike (t u : Trace) : Prop where
  steps : List.Forall₂ Step.LooksLike t.steps u.steps
  valid : t.valid = u.valid

theorem Instruction.toJson_eq_iff {i j : Instruction} : i.toJson = j.toJson ↔ i.LooksLike j := by
  constructor
  · intro h
    cases i with
    | int n =>
        cases j with
        | int m =>
            rw [Int64.toInt_inj.mp (Json.int.inj h)]
            exact .refl _
        | marker text => cases h
        | op code => cases h
    | marker text =>
        cases j with
        | int m => cases h
        | marker other =>
            rw [Json.str.inj h]
            exact .refl _
        | op code =>
            rw [Json.str.inj h]
            exact .naming code
    | op code =>
        cases j with
        | int m => cases h
        | marker text =>
            rw [← Json.str.inj h]
            exact .named code
        | op other =>
            rw [Opcode.name_injective (Json.str.inj h)]
            exact .refl _
  · rintro (_ | _ | _) <;> rfl

theorem StepKind.text_injective : Function.Injective text := by
  intro kind other
  cases kind <;> cases other <;> simp [text]

theorem Step.toJson_eq_iff {step other : Step} : step.toJson = other.toJson ↔ step.LooksLike other := by
  simp only [toJson, Json.obj.injEq, List.cons.injEq, Prod.mk.injEq, Json.arr.injEq, Json.str.injEq,
    Json.bool.injEq, true_and, and_true, map_eq_map_iff_forall₂ Instruction.toJson_eq_iff,
    StepKind.text_injective.eq_iff, looksLike_iff]

theorem Trace.toJson_eq_iff {t u : Trace} : t.toJson = u.toJson ↔ t.LooksLike u := by
  simp only [toJson, Json.obj.injEq, List.cons.injEq, Prod.mk.injEq, Json.arr.injEq, Json.bool.injEq,
    true_and, and_true, map_eq_map_iff_forall₂ Step.toJson_eq_iff, looksLike_iff]

/-- **The JSON text of a trace is faithful.** Two traces have the same compact text exactly if they look alike, and a reader gets back from the text all that was written. -/
theorem compact_toJson_faithful (t u : Trace) :
    (t.toJson.compact = u.toJson.compact ↔ t.LooksLike u) ∧
      Json.read? t.toJson.compact = some t.toJson := by
  refine ⟨?_, Json.read?_compact _⟩
  rw [← Trace.toJson_eq_iff]
  constructor
  · exact Json.compact_injective
  · intro h
    rw [h]

end ScriptTrace
