import Mathlib.Data.List.Forall2
import Mathlib.Data.Nat.Digits.Defs
import Mathlib.Data.Set.List
import ScriptTrace.Proofs.Source.RoundTrip

/-!
# The grammar of scripts

What the reader accepts, said without the reader. A text falls into runs of characters that are not blank, with blanks around them; there is exactly one way to see it so. A run is a token if it is the name of an opcode, a reserved marker, or a numeral whose value is in the range of literals, where a numeral is a sign or none and one or more decimal digits. A text is accepted if and only if all its runs are tokens, and otherwise the first one that is not is reported, with the number of runs before it.
-/

namespace ScriptTrace

/-! ### Runs -/

namespace Text

/-- The longest stretches of a text without a blank, in order. -/
inductive Runs : List Char → List (List Char) → Prop where
  | done {gap : List Char} (hgap : gap.all isBlank = true) : Runs gap []
  /-- A run goes up to the next blank or to the end. -/
  | run (gap word : List Char) {rest : List Char} {words : List (List Char)}
      (hgap : gap.all isBlank = true) (hne : word ≠ []) (hword : ∀ c ∈ word, isBlank c = false)
      (hend : ∀ c ∈ rest.head?, isBlank c = true) (hrest : Runs rest words) :
      Runs (gap ++ word ++ rest) (word :: words)

theorem words_append_of_head? {word rest : List Char} (hne : word ≠ [])
    (hword : ∀ c ∈ word, isBlank c = false) (hend : ∀ c ∈ rest.head?, isBlank c = true) :
    words (word ++ rest) = word :: words rest := by
  cases rest with
  | nil => rw [List.append_nil, words_nil, words_eq_singleton hne hword]
  | cons c rest =>
      have hc : isBlank c = true := hend c rfl
      rw [words_append_cons _ _ hc, words_cons_of_isBlank hc, words_eq_singleton hne hword]
      rfl

theorem Runs.words_eq {text : List Char} {runs : List (List Char)} (h : Runs text runs) :
    words text = runs := by
  induction h with
  | done hgap => exact words_of_all_isBlank hgap
  | run gap word hgap hne hword hend _ ih =>
      rw [List.append_assoc, words_append_of_all_isBlank hgap, words_append_of_head? hne hword hend, ih]

/-- A blank in front belongs to the gap before the first run. -/
theorem Runs.cons_of_isBlank {c : Char} {text : List Char} {runs : List (List Char)}
    (hc : isBlank c = true) (h : Runs text runs) : Runs (c :: text) runs := by
  cases h with
  | done hgap =>
      apply Runs.done
      rw [List.all_cons, hc, hgap]
      rfl
  | run gap word hgap hne hword hend hrest =>
      have hlonger : (c :: gap).all isBlank = true := by
        rw [List.all_cons, hc, hgap]
        rfl
      exact .run (c :: gap) word hlonger hne hword hend hrest

/-- Any other character in front is a run of its own before a blank, and else goes on with the first run. -/
theorem Runs.exists_cons {c : Char} {text : List Char} {runs : List (List Char)}
    (hc : isBlank c = false) (h : Runs text runs) : ∃ runs', Runs (c :: text) runs' := by
  by_cases hend : ∀ d ∈ text.head?, isBlank d = true
  · have hword : ∀ d ∈ [c], isBlank d = false := by
      intro d hd
      rw [List.mem_singleton.mp hd, hc]
    exact ⟨_, .run [] [c] rfl (List.cons_ne_nil _ _) hword hend h⟩
  · cases h with
    | done hgap =>
        exact absurd (fun d hd => List.all_eq_true.mp hgap d (List.mem_of_mem_head? hd)) hend
    | run gap word hgap hne hword hrestEnd hrest =>
        cases gap with
        | cons b gap =>
            refine absurd ?_ hend
            intro d hd
            cases hd
            exact List.all_eq_true.mp hgap b List.mem_cons_self
        | nil =>
            have hlonger : ∀ d ∈ c :: word, isBlank d = false := by
              intro d hd
              rcases List.mem_cons.mp hd with rfl | hd
              · exact hc
              · exact hword d hd
            exact ⟨_, .run [] (c :: word) rfl (List.cons_ne_nil _ _) hlonger hrestEnd hrest⟩

theorem exists_runs (text : List Char) : ∃ runs, Runs text runs := by
  induction text with
  | nil => exact ⟨[], .done rfl⟩
  | cons c text ih =>
      obtain ⟨runs, h⟩ := ih
      cases hc : isBlank c with
      | true => exact ⟨runs, h.cons_of_isBlank hc⟩
      | false => exact h.exists_cons hc

/-- The words of a text are its runs. -/
theorem runs_iff {text : List Char} {runs : List (List Char)} : Runs text runs ↔ words text = runs := by
  refine ⟨Runs.words_eq, ?_⟩
  rintro rfl
  obtain ⟨runs, h⟩ := exists_runs text
  rw [h.words_eq]
  exact h

end Text

theorem runs_tokens_iff {raw : String} {runs : List String} :
    Text.Runs raw.toList (runs.map String.toList) ↔ runs = tokens raw := by
  rw [Text.runs_iff, tokens]
  constructor
  · intro h
    rw [h, List.map_map]
    exact (List.map_id'' (fun _ => String.ofList_toList) runs).symm
  · rintro rfl
    rw [List.map_map]
    exact (List.map_id'' (fun _ => String.toList_ofList) _).symm

/-! ### Numerals -/

namespace Text

inductive Sign where
  | bare | plus | minus

def Sign.chars : Sign → List Char
  | .bare => []
  | .plus => ['+']
  | .minus => ['-']

def Sign.apply : Sign → Nat → Int
  | .minus, n => -n
  | _, n => n

/-- A sign or none, and one or more decimal digits, the most significant first. -/
structure Numeral where
  sign : Sign
  digits : List (Fin 10)
  digits_ne_nil : digits ≠ []

def digitChars (digits : List (Fin 10)) : List Char := digits.map fun d => d.val.digitChar

def digitsValue (digits : List (Fin 10)) : Nat := Nat.ofDigits 10 (digits.reverse.map Fin.val)

namespace Numeral

def chars (n : Numeral) : List Char := n.sign.chars ++ digitChars n.digits

def value (n : Numeral) : Int := n.sign.apply (digitsValue n.digits)

end Numeral

theorem isDigit_iff_exists {c : Char} : c.isDigit = true ↔ ∃ d : Fin 10, d.val.digitChar = c := by
  constructor
  · intro hc
    have hrange : 48 ≤ c.toNat ∧ c.toNat ≤ 57 := Char.isDigit_iff_toNat.mp hc
    refine ⟨⟨c.toNat - 48, by omega⟩, ?_⟩
    apply Char.toNat_inj.mp
    rw [Nat.toNat_digitChar_of_lt_ten (by omega)]
    dsimp only
    omega
  · rintro ⟨d, rfl⟩
    rw [Nat.isDigit_digitChar]
    exact decide_eq_true d.isLt

theorem ofDigitChars_digitChars (digits : List (Fin 10)) :
    Nat.ofDigitChars 10 (digitChars digits) 0 = digitsValue digits := by
  induction digits with
  | nil => rfl
  | cons d digits ih =>
      have hvalue : digitsValue (d :: digits) = digitsValue digits + 10 ^ digits.length * d := by
        rw [digitsValue, List.reverse_cons, List.map_append, Nat.ofDigits_append, List.length_map,
          List.length_reverse, List.map_singleton, Nat.ofDigits_singleton, ← digitsValue]
      have hchars : Nat.ofDigitChars 10 (digitChars (d :: digits)) 0 =
          10 ^ digits.length * d + Nat.ofDigitChars 10 (digitChars digits) 0 := by
        rw [digitChars, List.map_cons, Nat.ofDigitChars_cons_digitChar_of_lt_ten d.isLt, Nat.mul_zero,
          Nat.zero_add, Nat.ofDigitChars_eq_ofDigitChars_zero, List.length_map, ← digitChars]
      rw [hvalue, hchars, ih, Nat.add_comm]

theorem readNat?_eq_some_iff {text : List Char} {n : Nat} : readNat? text = some n ↔
    ∃ digits : List (Fin 10), digits ≠ [] ∧ digitChars digits = text ∧ digitsValue digits = n := by
  rw [readNat?, Option.ite_none_right_eq_some, Bool.and_eq_true, Bool.not_eq_true', List.isEmpty_eq_false_iff,
    List.all_eq_true, Option.some.injEq]
  constructor
  · rintro ⟨⟨hne, hdigits⟩, rfl⟩
    have hrange : ∀ c ∈ text, c ∈ Set.range fun d : Fin 10 => d.val.digitChar :=
      fun c hc => isDigit_iff_exists.mp (hdigits c hc)
    obtain ⟨digits, rfl⟩ : text ∈ Set.range (List.map fun d : Fin 10 => d.val.digitChar) := by
      rw [Set.range_list_map]
      exact hrange
    refine ⟨digits, ?_, rfl, (ofDigitChars_digitChars digits).symm⟩
    rintro rfl
    exact hne rfl
  · rintro ⟨digits, hne, rfl, rfl⟩
    refine ⟨⟨?_, ?_⟩, ofDigitChars_digitChars digits⟩
    · rwa [digitChars, Ne, List.map_eq_nil_iff]
    · intro c hc
      obtain ⟨d, _, hd⟩ := List.mem_map.mp hc
      exact isDigit_iff_exists.mpr ⟨d, hd⟩

/-- The reader looks for a sign, and reads what comes after it. -/
theorem exists_sign (text : List Char) :
    ∃ sign rest, text = Sign.chars sign ++ rest ∧ readInt? text = (readNat? rest).map sign.apply := by
  fun_cases readInt? text with
  | case1 digits => exact ⟨.minus, digits, rfl, by cases readNat? digits <;> rfl⟩
  | case2 digits => exact ⟨.plus, digits, rfl, by cases readNat? digits <;> rfl⟩
  | case3 => exact ⟨.bare, text, rfl, by cases readNat? text <;> rfl⟩

theorem readInt?_numeral (n : Numeral) : readInt? n.chars = some n.value := by
  obtain ⟨sign, digits, hne⟩ := n
  have hread : readNat? (digitChars digits) = some (digitsValue digits) :=
    readNat?_eq_some_iff.mpr ⟨digits, hne, rfl, rfl⟩
  cases sign with
  | minus =>
      change readInt? ('-' :: digitChars digits) = _
      rw [readInt?, hread]
      rfl
  | plus =>
      change readInt? ('+' :: digitChars digits) = _
      rw [readInt?, hread]
      rfl
  | bare =>
      obtain ⟨d, digits, rfl⟩ := List.exists_cons_of_ne_nil hne
      have hd : d.val.digitChar.isDigit = true := isDigit_iff_exists.mpr ⟨d, rfl⟩
      change readNat? (d.val.digitChar :: digitChars digits) = _ at hread
      change readInt? (d.val.digitChar :: digitChars digits) = _
      rw [readInt?_of_isDigit hd, hread]
      rfl

theorem readInt?_eq_some_iff {text : List Char} {z : Int} :
    readInt? text = some z ↔ ∃ n : Numeral, n.chars = text ∧ n.value = z := by
  constructor
  · intro h
    obtain ⟨sign, rest, rfl, hread⟩ := exists_sign text
    rw [hread] at h
    obtain ⟨k, hk, rfl⟩ := Option.map_eq_some_iff.mp h
    obtain ⟨digits, hne, rfl, rfl⟩ := readNat?_eq_some_iff.mp hk
    exact ⟨⟨sign, digits, hne⟩, rfl, rfl⟩
  · rintro ⟨n, rfl, rfl⟩
    exact readInt?_numeral n

end Text

/-! ### Tokens -/

/-- The instruction that a token stands for. -/
inductive Denotes : String → Instruction → Prop where
  | name (op : Opcode) : Denotes op.name (.op op)
  | signature : Denotes "SIGNATURE" (.marker "SIGNATURE")
  | pubkey : Denotes "PUBKEY" (.marker "PUBKEY")
  | integer (n : Text.Numeral) (hmin : -9223372036854775808 ≤ n.value)
      (hmax : n.value ≤ 9223372036854775807) :
      Denotes (String.ofList n.chars) (.int (.ofInt n.value))

def IsToken (text : String) : Prop := ∃ i, Denotes text i

namespace Instruction

theorem ofInt?_eq_some_iff {n : Int} {i : Instruction} : ofInt? n = some i ↔
    -9223372036854775808 ≤ n ∧ n ≤ 9223372036854775807 ∧ i = .int (.ofInt n) := by
  rw [ofInt?, Option.ite_none_right_eq_some, and_assoc, Option.some.injEq, @eq_comm _ i]
  rfl

/-- A numeral is neither a name nor a marker. -/
theorem ofToken?_of_readInt? {token : String} {n : Int} (h : Text.readInt? token.toList = some n) :
    ofToken? token = ofInt? n := by
  have hnames : ∀ op ∈ Opcode.all, Text.readInt? op.name.toList = none := by
    decide +kernel
  have hmarkers : ∀ text ∈ reservedMarkers, Text.readInt? text.toList = none := by
    decide +kernel
  have hname : Opcode.ofName? token = none := by
    rw [Option.eq_none_iff_forall_ne_some]
    intro op hop
    rw [← Opcode.ofName?_eq_some_iff.mp hop, hnames op op.mem_all] at h
    cases h
  have hmarker : ¬ reservedMarkers.contains token = true := by
    intro hcontains
    rw [hmarkers token (List.contains_iff_mem.mp hcontains)] at h
    cases h
  rw [ofToken?, hname, if_neg hmarker, h]
  rfl

/-- Tokens are read as the grammar says. -/
theorem ofToken?_eq_some_iff {token : String} {i : Instruction} :
    ofToken? token = some i ↔ Denotes token i := by
  constructor
  · intro h
    rw [ofToken?] at h
    split at h
    · rename_i op hop
      cases h
      rw [← Opcode.ofName?_eq_some_iff.mp hop]
      exact .name op
    · split at h
      · rename_i hcontains
        cases h
        have hmem : token = "SIGNATURE" ∨ token = "PUBKEY" := by
          simpa [reservedMarkers] using hcontains
        rcases hmem with rfl | rfl
        · exact .signature
        · exact .pubkey
      · obtain ⟨z, hz, hi⟩ := Option.bind_eq_some_iff.mp h
        obtain ⟨n, hn, rfl⟩ := Text.readInt?_eq_some_iff.mp hz
        obtain ⟨hmin, hmax, rfl⟩ := ofInt?_eq_some_iff.mp hi
        rw [← String.ofList_toList (s := token), ← hn]
        exact .integer n hmin hmax
  · intro h
    cases h with
    | name op => rw [ofToken?, Opcode.ofName?_eq_some_iff.mpr rfl]
    | signature => decide +kernel
    | pubkey => decide +kernel
    | integer n hmin hmax =>
        have hread : Text.readInt? (String.ofList n.chars).toList = some n.value := by
          rw [String.toList_ofList]
          exact Text.readInt?_numeral n
        rw [ofToken?_of_readInt? hread]
        exact ofInt?_eq_some_iff.mpr ⟨hmin, hmax, rfl⟩

theorem ofToken?_eq_none_iff {token : String} : ofToken? token = none ↔ ¬ IsToken token := by
  rw [Option.eq_none_iff_forall_ne_some, IsToken, not_exists]
  exact forall_congr' fun i => not_congr ofToken?_eq_some_iff

end Instruction

/-! ### Scripts -/

theorem readScript_eq_ok_iff_forall₂ {raw : String} {script : List Instruction} :
    readScript raw = .ok script ↔ List.Forall₂ Denotes (tokens raw) script := by
  rw [readScript_eq_ok_iff, ← List.forall₂_eq_eq_eq, List.forall₂_map_left_iff,
    List.forall₂_map_right_iff]
  simp only [Instruction.ofToken?_eq_some_iff]

theorem readScript_eq_error_iff {raw : String} {e : SourceError} :
    readScript raw = .error e ↔ ∃ k token, e = .unknownToken token k ∧
      (tokens raw)[k]? = some token ∧ ¬ IsToken token ∧
      ∀ earlier ∈ (tokens raw).take k, IsToken earlier := by
  rw [readScript_eq_readTokens, readTokens_eq_error_iff]
  simp only [Nat.zero_add, Instruction.ofToken?_eq_none_iff, ne_eq, not_not]

/-- **The reader follows the grammar.** Every text has its runs, in one way only. It is accepted if and only if all of them are tokens, and the script then consists of what they denote, one by one. Otherwise the first run that is no token is reported, with its position. -/
theorem readScript_follows_grammar (raw : String) :
    ∃ runs : List String,
      (∀ other : List String, Text.Runs raw.toList (other.map String.toList) ↔ other = runs) ∧
      ((∃ script, readScript raw = .ok script) ↔ ∀ text ∈ runs, IsToken text) ∧
      (∀ script, readScript raw = .ok script ↔ List.Forall₂ Denotes runs script) ∧
      ∀ e, readScript raw = .error e ↔ ∃ k token, e = .unknownToken token k ∧
        runs[k]? = some token ∧ ¬ IsToken token ∧ ∀ earlier ∈ runs.take k, IsToken earlier := by
  refine ⟨tokens raw, fun _ => runs_tokens_iff, ?_, fun _ => readScript_eq_ok_iff_forall₂,
    fun _ => readScript_eq_error_iff⟩
  constructor
  · rintro ⟨script, h⟩ text htext
    have hread : Instruction.ofToken? text ∈ script.map some := by
      rw [← readScript_eq_ok_iff.mp h]
      exact List.mem_map_of_mem htext
    obtain ⟨i, _, hi⟩ := List.mem_map.mp hread
    exact ⟨i, Instruction.ofToken?_eq_some_iff.mp hi.symm⟩
  · intro hall
    cases h : readScript raw with
    | ok script => exact ⟨script, rfl⟩
    | error e =>
        -- The token that would be reported is one of the runs.
        obtain ⟨k, token, _, hk, hnot, _⟩ := readScript_eq_error_iff.mp h
        exact absurd (hall token (List.mem_of_getElem? hk)) hnot

/-- One past the least literal, and a sign without digits, are no tokens; the first of them is reported. -/
example : readScript "\u2003+007 OP_1\t-9223372036854775809 - PUBKEY" =
    .error (.unknownToken "-9223372036854775809" 2) := by
  decide +kernel

end ScriptTrace
