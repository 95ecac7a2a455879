import Mathlib.Data.List.Nodup
import ScriptTrace.Proofs.Source.Reading

/-!
# Rendered scripts are read back

Every opcode, every literal and the two reserved markers have a text that is read as the same instruction. These texts contain neither blanks nor commas, so they can be told apart again: with any gaps between them, and in a listing with its brackets and commas taken away, they are read as the script they came from. Only such instructions are ever read, so reading a rendered script a second time changes nothing.
-/

namespace ScriptTrace

/-! ### Numerals -/

namespace Text

theorem readNat?_toDigits (n : Nat) : readNat? (Nat.toDigits 10 n) = some n := by
  have hdigits : (Nat.toDigits 10 n).all Char.isDigit = true :=
    List.all_eq_true.mpr fun c hc => Nat.isDigit_of_mem_toDigits (by decide) (by decide) hc
  have hne : (Nat.toDigits 10 n).isEmpty = false := by
    rw [List.isEmpty_eq_false_iff]
    exact Nat.toDigits_ne_nil
  rw [readNat?, hdigits, hne, Nat.ofDigitChars_ten_toDigits]
  rfl

theorem readInt?_of_isDigit {c : Char} (hc : c.isDigit = true) (digits : List Char) :
    readInt? (c :: digits) = (readNat? (c :: digits)).map fun n => (n : Int) := by
  rw [readInt?]
  -- The two signs are no digits.
  all_goals
    intro _ h
    cases h
    cases hc

theorem toList_toString_ofNat (n : Nat) : (toString (n : Int)).toList = Nat.toDigits 10 n := by
  change n.repr.toList = _
  rw [Nat.toList_repr]

theorem toList_toString_negSucc (n : Nat) :
    (toString (Int.negSucc n)).toList = '-' :: Nat.toDigits 10 (n + 1) := by
  change ("-" ++ (n + 1).repr).toList = _
  rw [String.toList_append, Nat.toList_repr]
  rfl

/-- An integer is read from its own numeral. -/
theorem readInt?_toString (n : Int) : readInt? (toString n).toList = some n := by
  cases n with
  | ofNat n =>
      change readInt? (toString (n : Int)).toList = _
      have hread := readNat?_toDigits n
      rw [toList_toString_ofNat]
      cases hdigits : Nat.toDigits 10 n with
      | nil => exact absurd hdigits Nat.toDigits_ne_nil
      | cons c digits =>
          have hc : c ∈ Nat.toDigits 10 n := by
            rw [hdigits]
            exact List.mem_cons_self
          rw [hdigits] at hread
          rw [readInt?_of_isDigit (Nat.isDigit_of_mem_toDigits (by decide) (by decide) hc), hread]
          rfl
  | negSucc n =>
      rw [toList_toString_negSucc, readInt?, readNat?_toDigits]
      rfl

theorem isDigit_or_eq_minus_of_mem_toString {n : Int} {c : Char} (hc : c ∈ (toString n).toList) :
    c.isDigit = true ∨ c = '-' := by
  cases n with
  | ofNat n =>
      rw [Int.ofNat_eq_natCast, toList_toString_ofNat] at hc
      exact .inl (Nat.isDigit_of_mem_toDigits (by decide) (by decide) hc)
  | negSucc n =>
      rw [toList_toString_negSucc, List.mem_cons] at hc
      rcases hc with rfl | hc
      · exact .inr rfl
      · exact .inl (Nat.isDigit_of_mem_toDigits (by decide) (by decide) hc)

theorem toList_toString_ne_nil (n : Int) : (toString n).toList ≠ [] := by
  intro hnil
  have hread := readInt?_toString n
  rw [hnil] at hread
  cases hread

/-- The visible characters of ASCII, but for the comma. -/
def isWordChar (c : Char) : Bool := 33 ≤ c.toNat && c.toNat ≤ 126 && c != ','

theorem isBlank_of_isWordChar {c : Char} (hc : isWordChar c = true) : isBlank c = false := by
  have hoff : ∀ range ∈ blankRanges, range.2 < 33 ∨ 126 < range.1 := by
    decide
  rw [isBlank, List.any_eq_false]
  intro range hmem hin
  have hside := hoff range hmem
  simp only [isWordChar, Bool.and_eq_true, decide_eq_true_eq] at hc hin
  omega

theorem isWordChar_of_isDigit {c : Char} (hc : c.isDigit = true) : isWordChar c = true := by
  have hdigit : 48 ≤ c.toNat ∧ c.toNat ≤ 57 := Char.isDigit_iff_toNat.mp hc
  have hcomma : c ≠ ',' := by
    rintro rfl
    cases hc
  simp only [isWordChar, Bool.and_eq_true, decide_eq_true_eq, bne_iff_ne]
  exact ⟨by omega, hcomma⟩

/-- A text that is one word and can be listed between commas. -/
structure Plain (text : String) : Prop where
  ne_nil : text.toList ≠ []
  all_isWordChar : text.toList.all isWordChar = true

theorem Plain.isBlank_eq_false {text : String} (h : Plain text) {c : Char} (hc : c ∈ text.toList) :
    isBlank c = false :=
  isBlank_of_isWordChar (List.all_eq_true.mp h.all_isWordChar c hc)

theorem Plain.ne_comma {text : String} (h : Plain text) {c : Char} (hc : c ∈ text.toList) :
    c ≠ ',' := by
  rintro rfl
  cases List.all_eq_true.mp h.all_isWordChar ',' hc

theorem plain_toString (n : Int) : Plain (toString n) := by
  refine ⟨toList_toString_ne_nil n, List.all_eq_true.mpr fun c hc => ?_⟩
  rcases isDigit_or_eq_minus_of_mem_toString hc with hdigit | rfl
  · exact isWordChar_of_isDigit hdigit
  · rfl

end Text

/-! ### The text of an instruction -/

namespace Opcode

theorem nodup_mnemonic : (all.map mnemonic).Nodup := by
  decide +kernel

theorem name_injective : Function.Injective name := by
  intro op op' h
  have hmnemonic : op.mnemonic = op'.mnemonic := by
    simpa [name] using h
  exact List.inj_on_of_nodup_map nodup_mnemonic op.mem_all op'.mem_all hmnemonic

/-- An opcode is read from its own name and from nothing else. -/
theorem ofName?_eq_some_iff {name : String} {op : Opcode} :
    ofName? name = some op ↔ op.name = name := by
  constructor
  · intro h
    have hbeq := List.find?_some h
    exact eq_of_beq hbeq
  · rintro rfl
    cases hfind : ofName? op.name with
    | none =>
        have hnot := List.find?_eq_none.mp hfind op op.mem_all
        exact absurd (beq_self_eq_true op.name) hnot
    | some found =>
        have hbeq := List.find?_some hfind
        rw [name_injective (eq_of_beq hbeq)]

theorem plain_name (op : Opcode) : Text.Plain op.name := by
  have hall : ∀ op ∈ all, op.name.toList.all Text.isWordChar = true := by
    decide +kernel
  refine ⟨?_, hall op op.mem_all⟩
  rw [name, String.toList_append]
  exact List.cons_ne_nil _ _

/-- A name begins with a letter, a numeral does not. -/
theorem ofName?_toString (n : Int) : ofName? (toString n) = none := by
  rw [Option.eq_none_iff_forall_ne_some]
  intro op hop
  have hmem : 'O' ∈ (toString n).toList := by
    rw [← ofName?_eq_some_iff.mp hop, name, String.toList_append]
    exact List.mem_append_left _ List.mem_cons_self
  rcases Text.isDigit_or_eq_minus_of_mem_toString hmem with hdigit | hminus
  · cases hdigit
  · cases hminus

end Opcode

namespace Instruction

/-- Of the markers only the reserved ones can be written. -/
def writable : Instruction → Bool
  | .marker text => reservedMarkers.contains text
  | _ => true

theorem ofInt?_toInt (n : Int64) : ofInt? n.toInt = some (.int n) := by
  rw [ofInt?, if_pos ⟨Int64.minValue_le_toInt n, Int64.toInt_le n⟩, Int64.ofInt_toInt]

theorem plain_text {i : Instruction} (h : i.writable = true) : Text.Plain i.text := by
  cases i with
  | int n => exact Text.plain_toString n.toInt
  | op code => exact code.plain_name
  | marker text =>
      have hall : ∀ text ∈ reservedMarkers,
          text.toList ≠ [] ∧ text.toList.all Text.isWordChar = true := by
        decide +kernel
      obtain ⟨hne, hchars⟩ := hall text (List.contains_iff_mem.mp h)
      exact ⟨hne, hchars⟩

/-- An instruction that can be written is read from its own text. -/
theorem ofToken?_text {i : Instruction} (h : i.writable = true) : ofToken? i.text = some i := by
  cases i with
  | op code => rw [ofToken?, text, Opcode.ofName?_eq_some_iff.mpr rfl]
  | marker text =>
      have hall : ∀ text ∈ reservedMarkers, ofToken? text = some (.marker text) := by
        decide +kernel
      exact hall text (List.contains_iff_mem.mp h)
  | int n =>
      have hall : ∀ text ∈ reservedMarkers, Text.readInt? text.toList = none := by
        decide +kernel
      have hnumeral : ¬ reservedMarkers.contains (toString n.toInt) = true := by
        intro hcontains
        have hnone := hall _ (List.contains_iff_mem.mp hcontains)
        rw [Text.readInt?_toString] at hnone
        cases hnone
      rw [ofToken?, text, Opcode.ofName?_toString, if_neg hnumeral, Text.readInt?_toString]
      exact ofInt?_toInt n

theorem writable_of_ofToken? {token : String} {i : Instruction} (h : ofToken? token = some i) :
    i.writable = true := by
  cases i with
  | int n => rfl
  | op code => rfl
  | marker text => exact List.contains_iff_mem.mpr (mem_reservedMarkers_of_ofToken? h)

end Instruction

/-- What can be read can be written. -/
theorem writable_of_readScript {raw : String} {script : List Instruction}
    (h : readScript raw = .ok script) : script.all Instruction.writable = true := by
  rw [List.all_eq_true]
  intro i hi
  obtain ⟨token, _, htoken⟩ := exists_token_of_readScript h hi
  exact Instruction.writable_of_ofToken? htoken

/-! ### Renderings -/

/-- Texts one after the other, with the gaps between them numbered from zero. -/
def spaced (gap : Nat → String) : List String → String
  | [] => ""
  | [text] => text
  | text :: next :: texts => text ++ gap 0 ++ spaced (fun k => gap (k + 1)) (next :: texts)

/-- Every comma with a space after it is taken away, and the space is left. -/
def withoutCommas : List Char → List Char
  | ',' :: ' ' :: rest => ' ' :: withoutCommas rest
  | c :: rest => c :: withoutCommas rest
  | [] => []

/-- A listing without its brackets, and with spaces alone between its items. -/
def unlisted (listing : String) : String :=
  String.ofList (withoutCommas listing.toList.tail.dropLast)

theorem tokens_spaced {gap : Nat → String} (hgap : ∀ k, Text.isGap (gap k).toList = true)
    {texts : List String} (htexts : ∀ text ∈ texts, Text.Plain text) :
    tokens (spaced gap texts) = texts := by
  induction texts generalizing gap with
  | nil => rfl
  | cons text texts ih =>
      have htext := htexts text List.mem_cons_self
      have htoken : tokens text = [text] :=
        tokens_eq_singleton htext.ne_nil fun _ hc => htext.isBlank_eq_false hc
      cases texts with
      | nil => exact htoken
      | cons next texts =>
          rw [spaced, tokens_append_gap _ _ (hgap 0), htoken,
            ih (fun k => hgap (k + 1)) fun text hmem => htexts text (List.mem_cons_of_mem _ hmem)]
          rfl

theorem withoutCommas_append {text : List Char} (htext : ∀ c ∈ text, c ≠ ',') (rest : List Char) :
    withoutCommas (text ++ rest) = text ++ withoutCommas rest := by
  induction text with
  | nil => rfl
  | cons c text ih =>
      have hc : c ≠ ',' := htext c List.mem_cons_self
      rw [List.cons_append, withoutCommas, ih fun d hd => htext d (List.mem_cons_of_mem c hd)]
      · rfl
      · intro _ h
        exact absurd h hc

theorem withoutCommas_intercalate {texts : List String}
    (htexts : ∀ text ∈ texts, Text.Plain text) :
    withoutCommas (", ".intercalate texts).toList = (spaced (fun _ => " ") texts).toList := by
  induction texts with
  | nil => rfl
  | cons text texts ih =>
      have htext : ∀ c ∈ text.toList, c ≠ ',' :=
        fun _ hc => (htexts text List.mem_cons_self).ne_comma hc
      cases texts with
      | nil =>
          have hlast := withoutCommas_append htext []
          rwa [List.append_nil, withoutCommas, List.append_nil] at hlast
      | cons next texts =>
          have hrest := ih fun text hmem => htexts text (List.mem_cons_of_mem _ hmem)
          rw [String.intercalate_cons_cons, String.toList_append, String.toList_append,
            List.append_assoc, withoutCommas_append htext, spaced, String.toList_append,
            String.toList_append, List.append_assoc, ← hrest]
          rfl

theorem toList_listing (script : List Instruction) :
    (Instruction.listing script).toList =
      '[' :: (", ".intercalate (script.map Instruction.text)).toList ++ [']'] := by
  rw [Instruction.listing, String.toList_append, String.toList_append]
  rfl

theorem unlisted_listing {script : List Instruction}
    (h : ∀ text ∈ script.map Instruction.text, Text.Plain text) :
    unlisted (Instruction.listing script) = spaced (fun _ => " ") (script.map Instruction.text) := by
  rw [unlisted, toList_listing, List.cons_append, List.tail_cons, List.dropLast_concat,
    withoutCommas_intercalate h, String.ofList_toList]

/-- Both renderings of a script are read as that script. -/
structure ReadsBack (script : List Instruction) : Prop where
  of_spaced : ∀ gap : Nat → String, (∀ k, Text.isGap (gap k).toList = true) →
    readScript (spaced gap (script.map Instruction.text)) = .ok script
  of_listing : readScript (unlisted (Instruction.listing script)) = .ok script

theorem readsBack_of_writable {script : List Instruction}
    (h : script.all Instruction.writable = true) : ReadsBack script := by
  rw [List.all_eq_true] at h
  have hplain : ∀ text ∈ script.map Instruction.text, Text.Plain text := by
    intro text hmem
    obtain ⟨i, hi, rfl⟩ := List.mem_map.mp hmem
    exact Instruction.plain_text (h i hi)
  have hread : ∀ gap : Nat → String, (∀ k, Text.isGap (gap k).toList = true) →
      readScript (spaced gap (script.map Instruction.text)) = .ok script := by
    intro gap hgap
    rw [readScript_eq_ok_iff, tokens_spaced hgap hplain, List.map_map]
    exact List.map_congr_left fun i hi => Instruction.ofToken?_text (h i hi)
  refine ⟨hread, ?_⟩
  rw [unlisted_listing hplain]
  exact hread _ fun _ => by decide

/-- **Reading undoes writing.** A script of opcodes, literals and reserved markers is read back from its texts with any gaps between them, and from its listing without brackets and commas. No other script is ever read, so what was read once is read again from either rendering. -/
theorem readScript_rendering :
    (∀ script : List Instruction, script.all Instruction.writable = true → ReadsBack script) ∧
    ∀ (raw : String) (script : List Instruction), readScript raw = .ok script →
      script.all Instruction.writable = true ∧ ReadsBack script := by
  refine ⟨fun script h => readsBack_of_writable h, fun raw script h => ?_⟩
  have hwritable := writable_of_readScript h
  exact ⟨hwritable, readsBack_of_writable hwritable⟩

/-- The least literal, between gaps of several kinds; and a numeral with a sign and a zero, which is written without them. -/
theorem readScript_rendering_minValue :
    readScript (spaced (fun k => if k = 0 then " \t\n" else "\u3000")
        ["-9223372036854775808", "SIGNATURE", "OP_2DUP"]) =
      .ok [.int Int64.minValue, .marker "SIGNATURE", .op .dup2] ∧
    readScript "+07\u2003OP_ADD" = .ok [.int 7, .op .add] ∧
    readScript (unlisted "[7, OP_ADD]") = .ok [.int 7, .op .add] := by
  have hgap : ∀ k : Nat, Text.isGap (if k = 0 then " \t\n" else "\u3000" : String).toList = true := by
    intro k
    split <;> decide
  have hread : readScript "+07\u2003OP_ADD" = .ok [.int 7, .op .add] := by
    decide +kernel
  exact ⟨(readScript_rendering.1 [.int Int64.minValue, .marker "SIGNATURE", .op .dup2]
    (by decide)).of_spaced _ hgap, hread, (readScript_rendering.2 _ _ hread).2.of_listing⟩

end ScriptTrace
