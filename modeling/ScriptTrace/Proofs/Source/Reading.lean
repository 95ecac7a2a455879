import Mathlib.Data.List.Basic
import ScriptTrace.Source

/-!
# Reading scripts

Blanks only separate. The words of a text are those before a gap and those after it, so the tokens of a text can be found piece by piece. A text is accepted if and only if every token is read as an instruction, and then the script is the list of these instructions.
-/

namespace ScriptTrace

/-! ### Words and gaps -/

namespace Text

/-- One or more blanks and nothing else. -/
def isGap (text : List Char) : Bool := !text.isEmpty && text.all isBlank

@[simp] theorem words_nil : words [] = [] := by
  rw [words, List.splitOnP_nil]
  rfl

theorem words_append_cons (a b : List Char) {c : Char} (hc : isBlank c = true) :
    words (a ++ c :: b) = words a ++ words b := by
  rw [words, List.splitOnP_append_cons a b hc, List.filter_append, ← words, ← words]

theorem words_cons_of_isBlank {c : Char} (hc : isBlank c = true) (b : List Char) :
    words (c :: b) = words b := by
  have happend := words_append_cons [] b hc
  rwa [words_nil, List.nil_append, List.nil_append] at happend

theorem words_append_of_all_isBlank {gap : List Char} (hgap : gap.all isBlank = true)
    (b : List Char) : words (gap ++ b) = words b := by
  induction gap with
  | nil => rfl
  | cons c gap ih =>
      rw [List.all_cons, Bool.and_eq_true] at hgap
      rw [List.cons_append, words_cons_of_isBlank hgap.1, ih hgap.2]

theorem words_of_all_isBlank {gap : List Char} (hgap : gap.all isBlank = true) : words gap = [] := by
  have happend := words_append_of_all_isBlank hgap []
  rwa [List.append_nil, words_nil] at happend

/-- No word goes across a gap. -/
theorem words_append_gap (a b : List Char) {gap : List Char} (hgap : isGap gap = true) :
    words (a ++ gap ++ b) = words a ++ words b := by
  cases gap with
  | nil => cases hgap
  | cons c gap =>
      have hblank : isBlank c = true ∧ gap.all isBlank = true := by
        simpa [isGap] using hgap
      rw [List.append_assoc, List.cons_append, words_append_cons _ _ hblank.1,
        words_append_of_all_isBlank hblank.2]

theorem words_eq_singleton {text : List Char} (hne : text ≠ [])
    (hblank : ∀ c ∈ text, isBlank c = false) : words text = [text] := by
  rw [words, List.splitOnP_eq_singleton hblank]
  simp [hne]

theorem mem_intercalate {sep : String} {parts : List String} {c : Char}
    (h : c ∈ (sep.intercalate parts).toList) : c ∈ sep.toList ∨ ∃ part ∈ parts, c ∈ part.toList := by
  induction parts with
  | nil => cases h
  | cons part parts ih =>
      cases parts with
      | nil => exact .inr ⟨part, List.mem_cons_self, h⟩
      | cons next parts =>
          simp only [String.intercalate_cons_cons, String.toList_append, List.mem_append] at h
          rcases h with (hpart | hsep) | hrest
          · exact .inr ⟨part, List.mem_cons_self, hpart⟩
          · exact .inl hsep
          · refine (ih hrest).imp_right ?_
            rintro ⟨other, hother, hc⟩
            exact ⟨other, List.mem_cons_of_mem part hother, hc⟩

end Text

theorem tokens_append_gap (a b : String) {gap : String} (hgap : Text.isGap gap.toList = true) :
    tokens (a ++ gap ++ b) = tokens a ++ tokens b := by
  rw [tokens, String.toList_append, String.toList_append, Text.words_append_gap _ _ hgap,
    List.map_append, ← tokens, ← tokens]

theorem tokens_eq_singleton {text : String} (hne : text.toList ≠ [])
    (hblank : ∀ c ∈ text.toList, Text.isBlank c = false) : tokens text = [text] := by
  rw [tokens, Text.words_eq_singleton hne hblank, List.map_singleton, String.ofList_toList]

/-! ### Tokens and instructions -/

/-- Read tokens that are counted from a position on. -/
def readTokens (position : Nat) (written : List String) : Except SourceError (List Instruction) :=
  (written.zipIdx position).mapM fun (token, position) => readToken token position

theorem readScript_eq_readTokens (raw : String) : readScript raw = readTokens 0 (tokens raw) := rfl

section

variable {position : Nat} {token : String} {written : List String}

theorem readTokens_cons : readTokens position (token :: written) = do
    let i ← readToken token position
    let rest ← readTokens (position + 1) written
    return i :: rest := by
  rw [readTokens, List.zipIdx_cons, List.mapM_cons]
  rfl

theorem readTokens_cons_of_some {i : Instruction} (h : Instruction.ofToken? token = some i) :
    readTokens position (token :: written) = (readTokens (position + 1) written).map (i :: ·) := by
  rw [readTokens_cons, readToken, h]
  cases readTokens (position + 1) written <;> rfl

theorem readTokens_cons_of_none (h : Instruction.ofToken? token = none) :
    readTokens position (token :: written) = .error (.unknownToken token position) := by
  rw [readTokens_cons, readToken, h]
  rfl

theorem readTokens_eq_ok_iff {script : List Instruction} :
    readTokens position written = .ok script ↔
      written.map Instruction.ofToken? = script.map some := by
  induction written generalizing position script with
  | nil =>
      change Except.ok [] = _ ↔ [] = _
      rw [Except.ok.injEq, @eq_comm _ [], @eq_comm _ [], List.map_eq_nil_iff]
  | cons token written ih =>
      cases htoken : Instruction.ofToken? token with
      | none =>
          rw [readTokens_cons_of_none htoken]
          cases script <;> simp [htoken]
      | some i =>
          rw [readTokens_cons_of_some htoken, List.map_cons, htoken]
          constructor
          · intro h
            cases hrest : readTokens (position + 1) written with
            | error e =>
                rw [hrest] at h
                cases h
            | ok rest =>
                rw [hrest] at h
                cases h
                rw [ih.mp hrest, List.map_cons]
          · intro h
            obtain ⟨j, rest, rfl, hj, hrest⟩ := List.map_eq_cons_iff.mp h.symm
            cases hj
            rw [ih.mpr hrest.symm]
            rfl

theorem readTokens_cons_eq_error_iff {i : Instruction} {e : SourceError}
    (h : Instruction.ofToken? token = some i) :
    readTokens position (token :: written) = .error e ↔
      readTokens (position + 1) written = .error e := by
  rw [readTokens_cons_of_some h]
  cases readTokens (position + 1) written with
  | error e' => exact Iff.rfl
  | ok rest => exact ⟨nofun, nofun⟩

/-- Reading fails with the first token that is not read as an instruction. -/
theorem readTokens_eq_error_iff {e : SourceError} :
    readTokens position written = .error e ↔
      ∃ k token, e = .unknownToken token (position + k) ∧ written[k]? = some token ∧
        Instruction.ofToken? token = none ∧
        ∀ earlier ∈ written.take k, Instruction.ofToken? earlier ≠ none := by
  induction written generalizing position with
  | nil =>
      refine ⟨nofun, ?_⟩
      rintro ⟨k, token, _, hk, _⟩
      cases hk
  | cons first written ih =>
      cases hfirst : Instruction.ofToken? first with
      | none =>
          rw [readTokens_cons_of_none hfirst]
          constructor
          · intro h
            cases h
            exact ⟨0, first, rfl, rfl, hfirst, nofun⟩
          · rintro ⟨k, token, rfl, hk, _, hearlier⟩
            cases k with
            | zero =>
                cases hk
                rfl
            | succ k => exact absurd hfirst (hearlier first List.mem_cons_self)
      | some i =>
          rw [readTokens_cons_eq_error_iff hfirst, ih]
          constructor
          · rintro ⟨k, token, rfl, hk, hnone, hearlier⟩
            refine ⟨k + 1, token, ?_, hk, hnone, ?_⟩
            · rw [Nat.add_assoc, Nat.add_comm 1 k]
            · rw [List.take_succ_cons, List.forall_mem_cons, hfirst]
              exact ⟨nofun, hearlier⟩
          · rintro ⟨k, token, rfl, hk, hnone, hearlier⟩
            cases k with
            | zero =>
                cases hk
                rw [hfirst] at hnone
                cases hnone
            | succ k =>
                rw [List.take_succ_cons, List.forall_mem_cons] at hearlier
                refine ⟨k, token, ?_, hk, hnone, hearlier.2⟩
                rw [Nat.add_assoc, Nat.add_comm 1 k]

end

/-- A text is read as a script if its tokens are the instructions of the script, one by one. -/
theorem readScript_eq_ok_iff {raw : String} {script : List Instruction} :
    readScript raw = .ok script ↔ (tokens raw).map Instruction.ofToken? = script.map some := by
  rw [readScript_eq_readTokens, readTokens_eq_ok_iff]

/-- Every instruction of a script that was read stands in the text. -/
theorem exists_token_of_readScript {raw : String} {script : List Instruction}
    (h : readScript raw = .ok script) {i : Instruction} (hi : i ∈ script) :
    ∃ token ∈ tokens raw, Instruction.ofToken? token = some i := by
  have hmem : some i ∈ (tokens raw).map Instruction.ofToken? := by
    rw [readScript_eq_ok_iff.mp h]
    exact List.mem_map_of_mem hi
  exact List.mem_map.mp hmem

theorem Instruction.mem_reservedMarkers_of_ofToken? {token text : String}
    (h : ofToken? token = some (.marker text)) : text ∈ reservedMarkers := by
  rw [ofToken?] at h
  split at h
  · cases h
  · split at h
    · rename_i hcontains
      cases h
      exact List.contains_iff_mem.mp hcontains
    · obtain ⟨n, _, hn⟩ := Option.bind_eq_some_iff.mp h
      obtain ⟨_, hliteral⟩ := Option.ite_none_right_eq_some.mp hn
      cases hliteral

theorem mem_reservedMarkers_of_readScript {raw text : String} {script : List Instruction}
    (h : readScript raw = .ok script) (hmem : .marker text ∈ script) : text ∈ reservedMarkers := by
  obtain ⟨token, _, htoken⟩ := exists_token_of_readScript h hmem
  exact Instruction.mem_reservedMarkers_of_ofToken? htoken

/-- A text that is accepted is read as a script, and the trace is that of the script. -/
theorem exists_script_of_run {v : Verifier} {limit : Nat} {raw : String} {trace : Trace}
    (h : run v limit raw = .ok trace) :
    ∃ script, readScript raw = .ok script ∧ trace = simulate v script := by
  cases hread : readScript raw with
  | error e =>
      rw [run, hread] at h
      cases h
  | ok script =>
      refine ⟨script, rfl, ?_⟩
      rw [run, hread] at h
      change (if limit < script.length then _ else _) = _ at h
      split at h
      · cases h
      · cases h
        rfl

end ScriptTrace
