import Mathlib.Data.List.Basic
import ScriptTrace.Proofs.Source.Reading

/-!
# Reading one text after another

Two texts with a gap between them are read as if each stood alone. If both are scripts, the whole is the one script followed by the other. If one of them is not, the first error is reported; in the second text it keeps its token, and its position moves by the length of the script before it. `followedBy` combines two readings in this way, and reading takes gaps to it. Blanks at the ends add nothing, and a list of texts with single blanks between them is read text by text.
-/

namespace ScriptTrace

/-- The same error, with so many tokens before the text. -/
def SourceError.shift (before : Nat) : SourceError → SourceError
  | .unknownToken token position => .unknownToken token (before + position)
  | .scriptTooLong length limit => .scriptTooLong length limit

/-- What reading comes to if one text is followed by another. -/
def followedBy (first second : Except SourceError (List Instruction)) :
    Except SourceError (List Instruction) := do
  let x ← first
  let y ← second.mapError (SourceError.shift x.length)
  return x ++ y

section

variable {position : Nat} {written : List String} {x y : List Instruction} {e : SourceError}

theorem followedBy_error (second : Except SourceError (List Instruction)) :
    followedBy (.error e) second = .error e := rfl

theorem followedBy_ok_error : followedBy (.ok x) (.error e) = .error (e.shift x.length) := rfl

theorem followedBy_ok_ok : followedBy (.ok x) (.ok y) = .ok (x ++ y) := rfl

/-! ### Positions -/

/-- Reading from a later position moves the error and nothing else. -/
theorem readTokens_add (before : Nat) :
    readTokens (before + position) written =
      (readTokens position written).mapError (SourceError.shift before) := by
  induction written generalizing position with
  | nil => rfl
  | cons token written ih =>
      cases htoken : Instruction.ofToken? token with
      | none =>
          rw [readTokens_cons_of_none htoken, readTokens_cons_of_none htoken]
          rfl
      | some i =>
          rw [readTokens_cons_of_some htoken, readTokens_cons_of_some htoken, Nat.add_assoc, ih]
          cases readTokens (position + 1) written <;> rfl

theorem length_of_readTokens (h : readTokens position written = .ok x) : x.length = written.length := by
  have hlength := congrArg List.length (readTokens_eq_ok_iff.mp h)
  rw [List.length_map, List.length_map] at hlength
  exact hlength.symm

theorem readTokens_append (first second : List String) :
    readTokens position (first ++ second) = do
      let x ← readTokens position first
      let y ← readTokens (position + first.length) second
      return x ++ y := by
  rw [readTokens, List.zipIdx_append, List.mapM_append]
  rfl

end

section

variable {x y : List Instruction} {e : SourceError}

/-! ### Texts -/

/-- Whatever separates two texts into the tokens of each, the readings are combined. -/
theorem readScript_of_tokens {raw a b : String} (h : tokens raw = tokens a ++ tokens b) :
    readScript raw = followedBy (readScript a) (readScript b) := by
  rw [readScript_eq_readTokens, readScript_eq_readTokens, readScript_eq_readTokens, h,
    readTokens_append]
  cases ha : readTokens 0 (tokens a) with
  | error e => rfl
  | ok x =>
      -- The tokens of the second text are counted on from the first; alone they are counted from zero.
      rw [Nat.zero_add, ← length_of_readTokens ha, ← Nat.add_zero x.length, readTokens_add]
      rfl

theorem readScript_append_gap (a b : String) {gap : String} (hgap : Text.isGap gap.toList = true) :
    readScript (a ++ gap ++ b) = followedBy (readScript a) (readScript b) :=
  readScript_of_tokens (tokens_append_gap a b hgap)

theorem exists_of_readScript_error {raw : String} (h : readScript raw = .error e) :
    ∃ token position, e = .unknownToken token position := by
  obtain ⟨k, token, he, _⟩ := readTokens_eq_error_iff.mp h
  exact ⟨token, 0 + k, he⟩

theorem tokens_between_blanks (a : String) {w w' : String} (hw : w.toList.all Text.isBlank = true)
    (hw' : w'.toList.all Text.isBlank = true) : tokens (w ++ a ++ w') = tokens a := by
  have hwords : Text.words (a.toList ++ w'.toList) = Text.words a.toList := by
    cases hlist : w'.toList with
    | nil => rw [List.append_nil]
    | cons c gap =>
        rw [hlist, List.all_cons, Bool.and_eq_true] at hw'
        rw [Text.words_append_cons _ _ hw'.1, Text.words_of_all_isBlank hw'.2, List.append_nil]
  rw [tokens, String.toList_append, String.toList_append, List.append_assoc,
    Text.words_append_of_all_isBlank hw, hwords, ← tokens]

/-! ### Joined texts -/

theorem tokens_intercalate (args : List String) :
    tokens (" ".intercalate args) = args.flatMap tokens := by
  induction args with
  | nil => simp [tokens]
  | cons arg args ih =>
      cases args with
      | nil => simp
      | cons next args =>
          rw [String.intercalate_cons_cons, tokens_append_gap _ _ rfl, ih]
          rfl

theorem readScript_intercalate_cons (arg : String) (args : List String) :
    readScript (" ".intercalate (arg :: args)) =
      followedBy (readScript arg) (readScript (" ".intercalate args)) := by
  apply readScript_of_tokens
  rw [tokens_intercalate, tokens_intercalate, List.flatMap_cons]

theorem readScript_intercalate_of_ok {args : List String} {scripts : List (List Instruction)}
    (h : args.map readScript = scripts.map .ok) :
    readScript (" ".intercalate args) = .ok scripts.flatten := by
  induction args generalizing scripts with
  | nil =>
      obtain rfl : scripts = [] := List.map_eq_nil_iff.mp h.symm
      rw [readScript_eq_readTokens, tokens_intercalate]
      rfl
  | cons arg args ih =>
      obtain ⟨x, scripts, rfl, hx, hscripts⟩ := List.map_eq_cons_iff.mp h.symm
      rw [readScript_intercalate_cons, ← hx, ih hscripts.symm, followedBy_ok_ok, List.flatten_cons]

/-- The first text that is not a script gives the error, and all tokens before it count. -/
theorem readScript_intercalate_of_error {before : List String} {scripts : List (List Instruction)}
    (hbefore : before.map readScript = scripts.map .ok) {arg token : String} {i : Nat}
    (harg : readScript arg = .error (.unknownToken token i)) (after : List String) :
    readScript (" ".intercalate (before ++ arg :: after)) =
      .error (.unknownToken token (scripts.flatten.length + i)) := by
  induction before generalizing scripts with
  | nil =>
      obtain rfl : scripts = [] := List.map_eq_nil_iff.mp hbefore.symm
      rw [List.nil_append, readScript_intercalate_cons, harg, followedBy_error, List.flatten_nil,
        List.length_nil, Nat.zero_add]
  | cons first before ih =>
      obtain ⟨x, scripts, rfl, hx, hscripts⟩ := List.map_eq_cons_iff.mp hbefore.symm
      rw [List.cons_append, readScript_intercalate_cons, ← hx, ih hscripts.symm, followedBy_ok_error,
        SourceError.shift, List.flatten_cons, List.length_append, Nat.add_assoc]

end

/-- **Reading is a homomorphism.** Let two texts stand with a gap between them. If the first is not a script, the whole fails with the same error. If only the second is not, the whole fails with the same token, and its position counts the instructions of the first. If both are scripts, the whole is read as one after the other. Hence blanks at the ends change nothing, and texts joined by single blanks have the tokens of each in turn: they are read as all their scripts in one, up to the first text that is not a script. -/
theorem readScript_homomorphism :
    (∀ a b gap : String, Text.isGap gap.toList = true →
      (∀ e, readScript a = .error e → readScript (a ++ gap ++ b) = .error e) ∧
      ∀ x, readScript a = .ok x →
        (∀ e, readScript b = .error e → ∃ token i, e = .unknownToken token i ∧
          readScript (a ++ gap ++ b) = .error (.unknownToken token (x.length + i))) ∧
        ∀ y, readScript b = .ok y → readScript (a ++ gap ++ b) = .ok (x ++ y)) ∧
    (∀ a w w' : String, w.toList.all Text.isBlank = true → w'.toList.all Text.isBlank = true →
      readScript (w ++ a ++ w') = readScript a) ∧
    ∀ args : List String,
      tokens (" ".intercalate args) = args.flatMap tokens ∧
      (∀ scripts : List (List Instruction), args.map readScript = scripts.map .ok →
        readScript (" ".intercalate args) = .ok scripts.flatten) ∧
      ∀ before arg after, args = before ++ arg :: after →
        ∀ scripts : List (List Instruction), before.map readScript = scripts.map .ok →
        ∀ token i, readScript arg = .error (.unknownToken token i) →
          readScript (" ".intercalate args) =
            .error (.unknownToken token (scripts.flatten.length + i)) := by
  refine ⟨?_, ?_, ?_⟩
  · intro a b gap hgap
    rw [readScript_append_gap a b hgap]
    refine ⟨?_, ?_⟩
    · intro e ha
      rw [ha, followedBy_error]
    · intro x ha
      rw [ha]
      refine ⟨?_, ?_⟩
      · intro e hb
        obtain ⟨token, i, rfl⟩ := exists_of_readScript_error hb
        rw [hb, followedBy_ok_error]
        exact ⟨token, i, rfl, rfl⟩
      · intro y hb
        rw [hb, followedBy_ok_ok]
  · intro a w w' hw hw'
    rw [readScript_eq_readTokens, tokens_between_blanks a hw hw', ← readScript_eq_readTokens]
  · intro args
    refine ⟨tokens_intercalate args, fun scripts => readScript_intercalate_of_ok, ?_⟩
    rintro before arg after rfl scripts hbefore token i harg
    exact readScript_intercalate_of_error hbefore harg after

/-- Between two texts a gap of a line break and a space that is not in ASCII; and of three arguments the second one has its error in its second token, after two tokens of the first. -/
theorem readScript_homomorphism_arguments :
    readScript ("1 OP_DUP" ++ "\n\u2003" ++ "-2") = .ok [.int 1, .op .dup, .int (-2)] ∧
    readScript (" ".intercalate [" 1 2", "OP_ADD op_add\t", "3x"]) = .error (.unknownToken "op_add" 3) := by
  have hfirst : readScript "1 OP_DUP" = .ok [.int 1, .op .dup] := by decide +kernel
  have hsecond : readScript "-2" = .ok [.int (-2)] := by decide +kernel
  refine ⟨((readScript_homomorphism.1 "1 OP_DUP" "-2" "\n\u2003" (by decide +kernel)).2 _ hfirst).2 _
    hsecond, ?_⟩
  exact (readScript_homomorphism.2.2 [" 1 2", "OP_ADD op_add\t", "3x"]).2.2 [" 1 2"] "OP_ADD op_add\t"
    ["3x"] rfl [[.int 1, .int 2]] (by decide +kernel) "op_add" 1 (by decide +kernel)

end ScriptTrace
