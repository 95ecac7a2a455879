import ScriptTrace.CommandLine.Session
import ScriptTrace.Proofs.Source.Grammar

/-!
# Scripts as arguments and as input

A script comes as arguments, which are joined by blanks, or as the first line of standard input. Both ways end in the same run: the bytes of a text without a line break have no byte of a line break, so the line that is cut out of the input is the text again. How a run on a text ends is said once, by `Ending`, from what the grammar says about the text.
-/

namespace ScriptTrace

/-! ### Bytes of a line -/

namespace Text

/-- Only a line break has this byte in its encoding, since all bytes of the longer encodings are above those of ASCII. -/
theorem eq_newline_of_mem_utf8EncodeChar {c : Char} (h : 10 ∈ String.utf8EncodeChar c) :
    c = '\n' := by
  have hcode : c.val.toNat = 10 := by
    revert h
    fun_cases String.utf8EncodeChar c
    all_goals
      simp only [List.mem_cons, List.not_mem_nil, or_false, ← UInt8.toNat_inj, UInt8.toNat_ofNat',
        UInt8.reduceToNat]
      omega
  exact Char.ext (UInt32.toNat_inj.mp hcode)

theorem toList_toUTF8 (text : String) :
    text.toUTF8.data.toList = text.toList.flatMap String.utf8EncodeChar := by
  have hbytes : text.toUTF8 = text.toList.utf8Encode := by
    rw [String.toUTF8_eq_toByteArray, ← String.toByteArray_ofList, String.ofList_toList]
  rw [hbytes, List.utf8Encode, List.data_toByteArray]

theorem ten_notMem_toUTF8 {text : String} (h : '\n' ∉ text.toList) :
    10 ∉ text.toUTF8.data.toList := by
  rw [toList_toUTF8, List.mem_flatMap]
  rintro ⟨c, hc, hbyte⟩
  rw [eq_newline_of_mem_utf8EncodeChar hbyte] at hc
  exact h hc

theorem fromUTF8?_toUTF8 (text : String) :
    String.fromUTF8? ⟨text.toUTF8.data.toList.toArray⟩ = some text := by
  rw [Array.toArray_toList, String.toUTF8_eq_toByteArray, String.fromUTF8?,
    dif_pos text.isValidUTF8]
  rfl

end Text

namespace CommandLine

namespace Options

/-- The first line of an input is the text that stands there, whether the input ends with the text or goes on after a line break. -/
theorem performInput_line (o : Options) {raw : String} (hline : '\n' ∉ raw.toList)
    {rest : List UInt8} (hrest : rest = [] ∨ ∃ further, rest = 10 :: further) :
    o.performInput (raw.toUTF8.data.toList ++ rest) = o.perform raw := by
  have hcut : (raw.toUTF8.data.toList ++ rest).takeWhile (· != 10) = raw.toUTF8.data.toList := by
    rw [List.takeWhile_append_of_pos]
    · rcases hrest with rfl | ⟨further, rfl⟩ <;> simp
    · intro byte hbyte
      rw [bne_iff_ne]
      rintro rfl
      exact Text.ten_notMem_toUTF8 hline hbyte
  rw [performInput, hcut, Text.fromUTF8?_toUTF8]

/-! ### Arguments -/

theorem addTokens_addTokens (o : Options) (first second : List String) :
    (o.addTokens first).addTokens second = o.addTokens (first ++ second) := by
  rw [addTokens, addTokens, addTokens, List.append_assoc]

theorem parseFrom?_tokens {T : List String}
    (hT : ∀ token ∈ T, Argument.ofString? token = some (.token token)) (o : Options) :
    o.parseFrom? T = some (o.addTokens T) := by
  induction T generalizing o with
  | nil => rw [parseFrom?, addTokens, List.append_nil]
  | cons token T ih =>
      rw [List.forall_mem_cons] at hT
      rw [parseFrom?, hT.1]
      exact (ih hT.2 _).trans (congrArg some (addTokens_addTokens o [token] T))

/-- Script tokens may be given after everything else. -/
theorem parseFrom?_append_tokens {T : List String}
    (hT : ∀ token ∈ T, Argument.ofString? token = some (.token token)) {o o' : Options}
    {args : List String} (h : o.parseFrom? args = some o') :
    o.parseFrom? (args ++ T) = some (o'.addTokens T) := by
  -- An option is taken in first, and the rest is read from there.
  have hbind : ∀ {next? : Option Options} {rest : List String},
      (∀ next : Options, next.parseFrom? rest = some o' →
        next.parseFrom? (rest ++ T) = some (o'.addTokens T)) →
      (next?.bind fun next => next.parseFrom? rest) = some o' →
      (next?.bind fun next => next.parseFrom? (rest ++ T)) = some (o'.addTokens T) := by
    intro next? rest ih hrest
    obtain ⟨next, hnext, hrest⟩ := Option.bind_eq_some_iff.mp hrest
    exact Option.bind_eq_some_iff.mpr ⟨next, hnext, ih next hrest⟩
  fun_induction parseFrom? o args with
  | case1 o =>
      cases h
      exact parseFrom?_tokens hT _
  | case2 => cases h
  | case3 o arg rest text harg ih =>
      rw [List.cons_append, parseFrom?, harg]
      exact ih h
  | case4 o arg rest harg =>
      cases h
      rw [List.cons_append, parseFrom?, harg, addTokens_addTokens]
  | case5 o arg rest harg ih =>
      rw [List.cons_append, parseFrom?, harg]
      exact ih h
  | case6 o arg rest harg ih =>
      rw [List.cons_append, parseFrom?, harg]
      exact hbind ih h
  | case7 o arg rest key value harg ih =>
      rw [List.cons_append, parseFrom?, harg]
      exact hbind ih h
  | case8 => cases h
  | case9 o arg key harg value rest ih =>
      rw [List.cons_append, parseFrom?, harg]
      exact hbind ih h

/-! ### How a run ends -/

section
variable (o : Options) {raw : String} {script : List Instruction}

theorem perform_of_error {e : SourceError} (h : readScript raw = .error e) :
    o.perform raw = .refused e.message := by
  rw [perform, run, h]
  rfl

theorem perform_of_lt (h : readScript raw = .ok script) (hlimit : o.limit < script.length) :
    o.perform raw = .refused (SourceError.scriptTooLong script.length o.limit).message := by
  have hrun : run .placeholder o.limit raw = .error (.scriptTooLong script.length o.limit) := by
    rw [run, h]
    exact if_pos hlimit
  rw [perform, hrun]

theorem perform_of_le (h : readScript raw = .ok script) (hlimit : script.length ≤ o.limit) :
    o.perform raw = ⟨if o.strict && !(simulate .placeholder script).valid then 2 else 0,
      o.format.show (simulate .placeholder script) ++ "\n", none⟩ := by
  have hrun : run .placeholder o.limit raw = .ok (simulate .placeholder script) := by
    rw [run, h]
    exact if_neg (Nat.not_lt.mpr hlimit)
  rw [perform, hrun]

end

end Options

/-- How a run on the text of a script ends. -/
structure Ending (o : Options) (raw : String) (s : Session) : Prop where
  exitCode_le : s.exitCode ≤ 2
  refused : s.exitCode = 1 ↔
    (∃ token ∈ tokens raw, ¬ IsToken token) ∨ o.limit < (tokens raw).length
  invalid : s.exitCode = 2 ↔ o.strict = true ∧ ∃ script, readScript raw = .ok script ∧
    script.length ≤ o.limit ∧ (simulate .placeholder script).valid = false
  /-- The first unknown token is reported, however many tokens there are. -/
  unknown : ∀ k token, (tokens raw)[k]? = some token → ¬ IsToken token →
    (∀ earlier ∈ (tokens raw).take k, IsToken earlier) →
    s.error = some ("error: " ++
      s!"unknown token `{token}` at position {k}: not an opcode, reserved literal or integer")
  tooLong : (∀ token ∈ tokens raw, IsToken token) → o.limit < (tokens raw).length →
    s.error = some ("error: " ++
      s!"script has {(tokens raw).length} instructions, limit is {o.limit}")
  silent : s.exitCode = 1 → s.output = ""
  /-- The limit has no part in what is shown. -/
  shown : s.exitCode ≠ 1 → s.error = none ∧ ∃ script, readScript raw = .ok script ∧
    (o.format = .plain → s.output = (simulate .placeholder script).plain ++ "\n") ∧
    (o.format = .json → s.output = (simulate .placeholder script).toJson.indented ++ "\n")

theorem isToken_of_readScript {raw : String} {script : List Instruction}
    (h : readScript raw = .ok script) : ∀ token ∈ tokens raw, IsToken token := by
  intro token htoken
  by_contra hunknown
  have hnone : none ∈ script.map some := by
    rw [← readScript_eq_ok_iff.mp h, ← Instruction.ofToken?_eq_none_iff.mpr hunknown]
    exact List.mem_map_of_mem htoken
  simp at hnone

theorem length_tokens_of_readScript {raw : String} {script : List Instruction}
    (h : readScript raw = .ok script) : (tokens raw).length = script.length :=
  (readScript_eq_ok_iff_forall₂.mp h).length_eq

section
variable {o : Options} {raw : String}

/-- A run that is refused ends as said if the reason is the right one. -/
theorem ending_refused {e : SourceError}
    (hrefused : (∃ token ∈ tokens raw, ¬ IsToken token) ∨ o.limit < (tokens raw).length)
    (hunknown : ∀ k token, (tokens raw)[k]? = some token → ¬ IsToken token →
      (∀ earlier ∈ (tokens raw).take k, IsToken earlier) → e = .unknownToken token k)
    (htooLong : (∀ token ∈ tokens raw, IsToken token) →
      e = .scriptTooLong (tokens raw).length o.limit) :
    Ending o raw (.refused e.message) where
  exitCode_le := by
    show 1 ≤ 2
    omega
  refused := iff_of_true rfl hrefused
  invalid := by
    apply iff_of_false
    · show ¬ 1 = 2
      omega
    · rintro ⟨_, script, hread, hlimit, _⟩
      rcases hrefused with ⟨token, hmem, hnot⟩ | hlong
      · exact hnot (isToken_of_readScript hread token hmem)
      · have hlength := length_tokens_of_readScript hread
        omega
  unknown := by
    intro k token hk hnot hearlier
    rw [hunknown k token hk hnot hearlier]
    rfl
  tooLong := by
    intro hall _
    rw [htooLong hall]
    rfl
  silent := fun _ => rfl
  shown := fun hcode => absurd rfl hcode

theorem ending_shown {script : List Instruction} (hread : readScript raw = .ok script)
    (hlimit : script.length ≤ o.limit) :
    Ending o raw ⟨if o.strict && !(simulate .placeholder script).valid then 2 else 0,
      o.format.show (simulate .placeholder script) ++ "\n", none⟩ := by
  have hall := isToken_of_readScript hread
  have hlength := length_tokens_of_readScript hread
  have hcode : (if o.strict && !(simulate .placeholder script).valid then 2 else 0) ≠ 1 := by
    split <;> omega
  constructor
  · show (if _ then 2 else 0) ≤ 2
    split <;> omega
  · apply iff_of_false hcode
    rintro (⟨token, hmem, hnot⟩ | hlong)
    · exact hnot (hall token hmem)
    · omega
  · constructor
    · intro htwo
      have hinvalid : (o.strict && !(simulate .placeholder script).valid) = true := by
        by_contra hnot
        have hzero := (if_neg hnot).symm.trans htwo
        omega
      rw [Bool.and_eq_true, Bool.not_eq_true'] at hinvalid
      exact ⟨hinvalid.1, script, hread, hlimit, hinvalid.2⟩
    · rintro ⟨hstrict, script', hread', _, hvalid⟩
      cases hread.symm.trans hread'
      exact if_pos (by rw [hstrict, hvalid]; rfl)
  · intro k token hk hnot
    exact absurd (hall token (List.mem_of_getElem? hk)) hnot
  · intro _ hlong
    omega
  · intro hone
    exact absurd hone hcode
  · intro _
    refine ⟨rfl, script, hread, fun hplain => ?_, fun hjson => ?_⟩
    · rw [hplain]
      rfl
    · rw [hjson]
      rfl

end

/-- Every run on a text ends as said. -/
theorem ending_perform (o : Options) (raw : String) : Ending o raw (o.perform raw) := by
  cases hread : readScript raw with
  | error e =>
      obtain ⟨k, token, rfl, hk, hnot, _⟩ := readScript_eq_error_iff.mp hread
      have hmem : token ∈ tokens raw := List.mem_of_getElem? hk
      rw [o.perform_of_error hread]
      apply ending_refused
      · exact .inl ⟨token, hmem, hnot⟩
      · intro k' token' hk' hnot' hearlier'
        have hread' := readScript_eq_error_iff.mpr ⟨k', token', rfl, hk', hnot', hearlier'⟩
        exact Except.error.inj (hread.symm.trans hread')
      · intro hall
        exact absurd (hall token hmem) hnot
  | ok script =>
      have hlength := length_tokens_of_readScript hread
      rcases Nat.lt_or_ge o.limit script.length with hlimit | hlimit
      · rw [o.perform_of_lt hread hlimit]
        apply ending_refused
        · exact .inr (by omega)
        · intro k token hk hnot
          exact absurd (isToken_of_readScript hread token (List.mem_of_getElem? hk)) hnot
        · intro _
          rw [hlength]
      · rw [o.perform_of_le hread hlimit]
        exact ending_shown hread hlimit

/-- On one text there is only one way to end as said. -/
theorem Ending.unique {o : Options} {raw : String} {s t : Session} (hs : Ending o raw s)
    (ht : Ending o raw t) : s = t := by
  have hcode : s.exitCode = t.exitCode := by
    have hone := hs.refused.trans ht.refused.symm
    have htwo := hs.invalid.trans ht.invalid.symm
    have hs2 := hs.exitCode_le
    have ht2 := ht.exitCode_le
    omega
  suffices h : s.output = t.output ∧ s.error = t.error by
    obtain ⟨code, output, error⟩ := s
    obtain ⟨houtput, herror⟩ := h
    subst hcode houtput herror
    rfl
  by_cases hone : s.exitCode = 1
  · refine ⟨(hs.silent hone).trans (ht.silent (hcode ▸ hone)).symm, ?_⟩
    cases hread : readScript raw with
    | error e =>
        obtain ⟨k, token, _, hk, hnot, hearlier⟩ := readScript_eq_error_iff.mp hread
        rw [hs.unknown k token hk hnot hearlier, ht.unknown k token hk hnot hearlier]
    | ok script =>
        have hall := isToken_of_readScript hread
        have hlong : o.limit < (tokens raw).length :=
          (hs.refused.mp hone).resolve_left fun ⟨token, hmem, hnot⟩ => hnot (hall token hmem)
        rw [hs.tooLong hall hlong, ht.tooLong hall hlong]
  · obtain ⟨hserror, script, hread, hsplain, hsjson⟩ := hs.shown hone
    obtain ⟨hterror, script', hread', htplain, htjson⟩ := ht.shown (hcode ▸ hone)
    cases hread.symm.trans hread'
    refine ⟨?_, hserror.trans hterror.symm⟩
    cases hformat : o.format with
    | plain => rw [hsplain hformat, htplain hformat]
    | json => rw [hsjson hformat, htjson hformat]

/-! ### Arguments and input -/

theorem session_of_tokens {args : List String} {o : Options} (hargs : Options.parse? args = some o)
    (htokens : o.tokens ≠ []) (input : List UInt8) :
    session args input = o.perform (" ".intercalate o.tokens) := by
  rw [session, hargs]
  exact if_neg (by simpa using htokens)

theorem session_of_no_tokens {args : List String} {o : Options}
    (hargs : Options.parse? args = some o) (htokens : o.tokens = []) (input : List UInt8) :
    session args input = (o.performInput input).after prompt := by
  rw [session, hargs]
  exact if_pos (by simpa using htokens)

/-- **Arguments and input agree.** Take a command line that has options only, and script tokens without line breaks. Put among the options, for instance after them, the tokens are the script, whatever the input is: the run ends as `Ending` says for the tokens with blanks between them. The options alone, with this text as the first line of the input and anything after it, give the same behind the prompt. -/
theorem session_tokens_agree_with_input {options : List String} {o : Options}
    (hoptions : Options.parse? options = some o) (hnone : o.tokens = []) {T : List String}
    (hT : T ≠ []) (hlines : ∀ token ∈ T, '\n' ∉ token.toList) :
    ((∀ token ∈ T, Argument.ofString? token = some (.token token)) →
      Options.parse? (options ++ T) = some (o.addTokens T)) ∧
    ∀ args, Options.parse? args = some (o.addTokens T) → ∀ input : List UInt8,
      Ending o (" ".intercalate T) (session args input) ∧
      ∀ rest : List UInt8, (rest = [] ∨ ∃ further, rest = 10 :: further) →
        session options ((" ".intercalate T).toUTF8.data.toList ++ rest) =
          { session args input with output := "Enter Script: " ++ (session args input).output } := by
  refine ⟨fun htokens => Options.parseFrom?_append_tokens htokens hoptions, ?_⟩
  intro args hargs input
  have htokens : (o.addTokens T).tokens = T := by
    rw [Options.addTokens, hnone, List.nil_append]
  have hperform : session args input = o.perform (" ".intercalate T) := by
    rw [session_of_tokens hargs (htokens.trans_ne hT), htokens]
    rfl
  have hline : '\n' ∉ (" ".intercalate T).toList := by
    intro hmem
    rcases Text.mem_intercalate hmem with hblank | ⟨token, htoken, hchar⟩
    · simp at hblank
    · exact hlines token htoken hchar
  rw [hperform]
  refine ⟨ending_perform o _, ?_⟩
  intro rest hrest
  rw [session_of_no_tokens hoptions hnone, o.performInput_line hline hrest]
  rfl

/-- What three runs print: a strict one that shows JSON, on a token with a dash, whose input goes on with a byte that is not UTF-8; one that shows a plain trace; and one with an unknown token that is also too long. -/
theorem session_tokens_agree_with_input_strict :
    (∀ input : List UInt8,
      session ["-vfjson", "--max-script-len", "5", "--strict", "-0"] input = ⟨2,
        "\x7b\n  \"steps\": [\n" ++
        "    \x7b\n      \"script\": [\n        0\n      ],\n      \"stack\": [],\n" ++
        "      \"message\": \"Initial setup\",\n      \"failed\": false,\n" ++
        "      \"kind\": \"setup\"\n    \x7d,\n" ++
        "    \x7b\n      \"script\": [],\n      \"stack\": [\n        0\n      ],\n" ++
        "      \"message\": \"Pushed <0> to stack\",\n      \"failed\": false,\n" ++
        "      \"kind\": \"push\"\n    \x7d\n  ],\n  \"valid\": false\n\x7d\n", none⟩ ∧
      session ["-vfjson", "--max-script-len", "5", "--strict"]
          ("-0".toUTF8.data.toList ++ [10, 255]) =
        (session ["-vfjson", "--max-script-len", "5", "--strict", "-0"] input).after
          "Enter Script: ") ∧
    (∀ input : List UInt8,
      session ["--max-script-len", "3", "OP_1", "-1", "OP_ADD"] input = ⟨0,
        "Step 0:\nMessage: Initial setup\n" ++
        "Script: [OP_1, -1, OP_ADD]\nStack: []\nPassed: true\n\n" ++
        "Step 1:\nMessage: Logic for OP_1 not implemented yet; OP_1 pushed to stack\n" ++
        "Script: [-1, OP_ADD]\nStack: [OP_1]\nPassed: true\n\n" ++
        "Step 2:\nMessage: Pushed <-1> to stack\n" ++
        "Script: [OP_ADD]\nStack: [-1, OP_1]\nPassed: true\n\n" ++
        "Step 3:\nMessage: Performed ADD on <-1> and <1>; Pushed <0> to stack\n" ++
        "Script: []\nStack: [0]\nPassed: true\n\nInvalid script\n", none⟩) ∧
    (∀ input : List UInt8,
      session ["--max-script-len", "1", "OP_1", "OP_ONE"] input = ⟨1, "", some
        "error: unknown token `OP_ONE` at position 1: not an opcode, reserved literal or integer"⟩) := by
  refine ⟨fun input => ?_, fun input => ?_, fun input => ?_⟩
  · have hoptions : Options.parse? ["-vfjson", "--max-script-len", "5", "--strict"] =
        some ⟨some .json, some 5, true, []⟩ := by decide +kernel
    obtain ⟨hparse, hsession⟩ := session_tokens_agree_with_input hoptions rfl
      (T := ["-0"]) (by decide) (by decide +kernel)
    obtain ⟨hending, hinput⟩ := hsession _ (hparse (by decide +kernel)) input
    refine ⟨?_, hinput _ (.inr ⟨[255], rfl⟩)⟩
    exact (hending.unique (ending_perform _ _)).trans (by decide +kernel)
  · have hoptions : Options.parse? ["--max-script-len", "3"] = some ⟨none, some 3, false, []⟩ := by
      decide +kernel
    obtain ⟨hparse, hsession⟩ := session_tokens_agree_with_input hoptions rfl
      (T := ["OP_1", "-1", "OP_ADD"]) (by decide) (by decide +kernel)
    obtain ⟨hending, _⟩ := hsession _ (hparse (by decide +kernel)) input
    exact (hending.unique (ending_perform _ _)).trans (by decide +kernel)
  · have hoptions : Options.parse? ["--max-script-len", "1"] = some ⟨none, some 1, false, []⟩ := by
      decide +kernel
    obtain ⟨hparse, hsession⟩ := session_tokens_agree_with_input hoptions rfl
      (T := ["OP_1", "OP_ONE"]) (by decide) (by decide +kernel)
    obtain ⟨hending, _⟩ := hsession _ (hparse (by decide +kernel)) input
    exact (hending.unique (ending_perform _ _)).trans (by decide +kernel)

end CommandLine

end ScriptTrace
