import Mathlib.Tactic.TFAE
import ScriptTrace.Proofs.Json.Faithful
import ScriptTrace.Proofs.Json.Layout

/-!
# What is shown tells what was run

All three ways of showing a trace leave out of which kind an instruction is: plain text and JSON write a marker and an opcode alike, and plain text writes integers as well without a sign of their kind. For scripts that were read from text nothing is lost, since the reader makes no marker that looks like an opcode. In plain text the script stands on the third line, as a listing that can be read back; in JSON it is a field of the first step. So whoever sees the output of a run knows its script, and with it the whole trace.
-/

namespace ScriptTrace

/-! ### Instructions that can be read -/

namespace Instruction

theorem LooksLike.eq_of_writable {i j : Instruction} (h : i.LooksLike j) (hi : i.writable = true)
    (hj : j.writable = true) : i = j := by
  have hnames : ∀ op ∈ Opcode.all, reservedMarkers.contains op.name = false := by
    decide +kernel
  cases h with
  | refl => rfl
  | named op =>
      rw [writable, hnames op op.mem_all] at hj
      cases hj
  | naming op =>
      rw [writable, hnames op op.mem_all] at hi
      cases hi

theorem eq_of_forall₂_looksLike {script script' : List Instruction}
    (h : List.Forall₂ LooksLike script script') (hscript : script.all writable = true)
    (hscript' : script'.all writable = true) : script = script' := by
  induction h with
  | nil => rfl
  | cons hhead _ ih =>
      rw [List.all_cons, Bool.and_eq_true] at hscript hscript'
      rw [hhead.eq_of_writable hscript.1 hscript'.1, ih hscript.2 hscript'.2]

/-- A listing of instructions that can be written is one line. -/
theorem ne_newline_of_mem_listing {script : List Instruction} (h : script.all writable = true)
    {c : Char} (hc : c ∈ (listing script).toList) : c ≠ '\n' := by
  rintro rfl
  rw [toList_listing] at hc
  have hmem : '\n' ∈ (", ".intercalate (script.map text)).toList := by
    simpa using hc
  rcases Text.mem_intercalate hmem with hsep | ⟨part, hpart, hchar⟩
  · cases hsep with
    | tail _ hsep => cases hsep with
      | tail _ hsep => cases hsep
  · obtain ⟨i, hi, rfl⟩ := List.mem_map.mp hpart
    have hblank := (plain_text (List.all_eq_true.mp h i hi)).isBlank_eq_false hchar
    cases hblank

theorem listing_injective {script script' : List Instruction} (hscript : script.all writable = true)
    (hscript' : script'.all writable = true) (h : listing script = listing script') :
    script = script' := by
  have hread := (readsBack_of_writable hscript).of_listing
  rw [h, (readsBack_of_writable hscript').of_listing] at hread
  exact (Except.ok.inj hread).symm

end Instruction

/-! ### Plain text -/

/-- What stands before the script in the plain text of a trace. -/
def plainHeader : String := "Step 0:\nMessage: Initial setup\nScript: "

theorem plain_simulate (v : Verifier) (script : List Instruction) :
    ∃ rest, (simulate v script).plain =
      plainHeader ++ (Instruction.listing script ++ ("\n" ++ rest)) := by
  have hsetup : (Step.setup script).plain 0 =
      plainHeader ++ Instruction.listing script ++ "\n" ++
        ("Stack: " ++ Instruction.listing [] ++ "\nPassed: " ++ "true" ++ "\n\n") := rfl
  rw [Trace.plain, steps_simulate, List.zipIdx_cons, List.map_cons, String.join_cons]
  simp only [hsetup, String.append_assoc]
  exact ⟨_, rfl⟩

/-- Texts that begin with a line each have the same first line if they are the same. -/
theorem line_eq_of_append_eq {line line' rest rest' : String} (hline : ∀ c ∈ line.toList, c ≠ '\n')
    (hline' : ∀ c ∈ line'.toList, c ≠ '\n')
    (h : line ++ ("\n" ++ rest) = line' ++ ("\n" ++ rest')) : line = line' := by
  have hfirst : ∀ {line : String} (rest : String), (∀ c ∈ line.toList, c ≠ '\n') →
      (line ++ ("\n" ++ rest)).toList.takeWhile (· != '\n') = line.toList := by
    intro line rest hline
    rw [String.toList_append, String.toList_append, List.takeWhile_append_of_pos]
    · simp
    · intro c hc
      exact bne_iff_ne.mpr (hline c hc)
  rw [← String.toList_inj, ← hfirst rest hline, h, hfirst rest' hline']

theorem eq_of_plain_eq {v : Verifier} {script script' : List Instruction}
    (hscript : script.all Instruction.writable = true)
    (hscript' : script'.all Instruction.writable = true)
    (h : (simulate v script).plain = (simulate v script').plain) : script = script' := by
  obtain ⟨rest, hplain⟩ := plain_simulate v script
  obtain ⟨rest', hplain'⟩ := plain_simulate v script'
  rw [hplain, hplain', String.append_right_inj] at h
  apply Instruction.listing_injective hscript hscript'
  exact line_eq_of_append_eq (fun _ => Instruction.ne_newline_of_mem_listing hscript)
    (fun _ => Instruction.ne_newline_of_mem_listing hscript') h

/-! ### JSON -/

theorem eq_of_toJson_eq {v : Verifier} {script script' : List Instruction}
    (hscript : script.all Instruction.writable = true)
    (hscript' : script'.all Instruction.writable = true)
    (h : (simulate v script).toJson = (simulate v script').toJson) : script = script' := by
  have hsteps := (Trace.toJson_eq_iff.mp h).steps
  rw [steps_simulate, steps_simulate, List.forall₂_cons] at hsteps
  exact Instruction.eq_of_forall₂_looksLike hsteps.1.script hscript hscript'

/-! ### The three formats together -/

/-- Two runs show the same in one format exactly if they show the same in every format, and that is exactly if the same script was read; how long a script was allowed to be plays no part. -/
theorem run_formats_tfae (v : Verifier) {limit limit' : Nat} {raw raw' : String} {t t' : Trace}
    (hrun : run v limit raw = .ok t) (hrun' : run v limit' raw' = .ok t') :
    List.TFAE [readScript raw = readScript raw',
      t.plain = t'.plain,
      t.toJson.compact = t'.toJson.compact,
      t.toJson.indented = t'.toJson.indented] := by
  obtain ⟨script, hread, rfl⟩ := exists_script_of_run hrun
  obtain ⟨script', hread', rfl⟩ := exists_script_of_run hrun'
  have hscript := writable_of_readScript hread
  have hscript' := writable_of_readScript hread'
  rw [hread, hread']
  tfae_have 1 → 2 := by
    intro h
    rw [Except.ok.inj h]
  tfae_have 2 → 3 := by
    intro h
    rw [eq_of_plain_eq hscript hscript' h]
  tfae_have 3 → 4 := by
    intro h
    rw [Json.compact_injective h]
  tfae_have 4 → 1 := by
    intro h
    rw [eq_of_toJson_eq hscript hscript' (Json.indented_injective h)]
  tfae_finish

/-- A sign, a leading zero and a tab instead of a blank leave no trace in the output. -/
theorem run_formats_tfae_spelling :
    ∃ t t', run .placeholder 2 "01 OP_DUP" = .ok t ∧ run .placeholder 5 "+1\tOP_DUP" = .ok t' ∧
      List.TFAE [readScript "01 OP_DUP" = readScript "+1\tOP_DUP",
        t.plain = t'.plain,
        t.toJson.compact = t'.toJson.compact,
        t.toJson.indented = t'.toJson.indented] ∧
      readScript "01 OP_DUP" = readScript "+1\tOP_DUP" ∧
      t.plain = "Step 0:\nMessage: Initial setup\nScript: [1, OP_DUP]\nStack: []\nPassed: true\n\n" ++
        "Step 1:\nMessage: Pushed <1> to stack\nScript: [OP_DUP]\nStack: [1]\nPassed: true\n\n" ++
        "Step 2:\nMessage: Performed DUP; Duplicated <1>, and pushed it to stack\n" ++
        "Script: []\nStack: [1, 1]\nPassed: true\n\nValid script" ∧
      t.plain = t'.plain ∧
      t.toJson.compact = "\x7b\"steps\":[" ++
        "\x7b\"script\":[1,\"OP_DUP\"],\"stack\":[],\"message\":\"Initial setup\"," ++
        "\"failed\":false,\"kind\":\"setup\"\x7d," ++
        "\x7b\"script\":[\"OP_DUP\"],\"stack\":[1],\"message\":\"Pushed <1> to stack\"," ++
        "\"failed\":false,\"kind\":\"push\"\x7d," ++
        "\x7b\"script\":[],\"stack\":[1,1]," ++
        "\"message\":\"Performed DUP; Duplicated <1>, and pushed it to stack\"," ++
        "\"failed\":false,\"kind\":\"executed\"\x7d],\"valid\":true\x7d" ∧
      t.toJson.compact = t'.toJson.compact := by
  have hrun : run .placeholder 2 "01 OP_DUP" = .ok (simulate .placeholder [.int 1, .op .dup]) := by
    decide +kernel
  have hrun' : run .placeholder 5 "+1\tOP_DUP" = .ok (simulate .placeholder [.int 1, .op .dup]) := by
    decide +kernel
  have hread : readScript "01 OP_DUP" = readScript "+1\tOP_DUP" := by decide +kernel
  have htfae := run_formats_tfae .placeholder hrun hrun'
  exact ⟨_, _, hrun, hrun', htfae, hread, by decide +kernel, (htfae.out 0 1).mp hread,
    by decide +kernel, (htfae.out 0 2).mp hread⟩

end ScriptTrace
