import ScriptTrace.CommandLine.Options
import ScriptTrace.Proofs.Source.Grammar

/-!
# The grammar of arguments

What the arguments of a command line mean, said without the parser. An argument is positional, that is, a token of the script, if it has no dash in front, is a dash alone, or is a negative number. A setting is written in one of several ways, as one argument or as two; a value stands behind an equals sign, directly behind a short option, or in the next argument. However a setting is written, and whatever comes after it, the parser takes in the same setting.
-/

namespace ScriptTrace

/-! ### Numbers -/

namespace Text

/-- Nothing, or an `e` of either case and one or more digits. -/
inductive Exponent : List Char → Prop where
  | absent : Exponent []
  | present {mark : Char} {digits : List Char} (hmark : mark = 'e' ∨ mark = 'E')
      (hne : digits ≠ []) (hdigits : ∀ c ∈ digits, c.isDigit = true) : Exponent (mark :: digits)

/-- One or more digits, perhaps a point with or without digits after it, and an exponent. -/
inductive Number : List Char → Prop where
  | whole {digits rest : List Char} (hne : digits ≠ []) (hdigits : ∀ c ∈ digits, c.isDigit = true)
      (hrest : Exponent rest) : Number (digits ++ rest)
  | pointed {digits decimals rest : List Char} (hne : digits ≠ [])
      (hdigits : ∀ c ∈ digits, c.isDigit = true) (hdecimals : ∀ c ∈ decimals, c.isDigit = true)
      (hrest : Exponent rest) : Number (digits ++ '.' :: (decimals ++ rest))

theorem isExponent_iff {text : List Char} : isExponent text = true ↔ Exponent text := by
  have hmarked : ∀ {digits : List Char}, (!digits.isEmpty && digits.all Char.isDigit) = true ↔
      digits ≠ [] ∧ ∀ c ∈ digits, c.isDigit = true := by
    intro digits
    rw [Bool.and_eq_true, Bool.not_eq_true', List.isEmpty_eq_false_iff, List.all_eq_true]
  constructor
  · fun_cases isExponent text with
    | case1 => exact fun _ => .absent
    | case2 digits => exact fun h => .present (.inl rfl) (hmarked.mp h).1 (hmarked.mp h).2
    | case3 digits => exact fun h => .present (.inr rfl) (hmarked.mp h).1 (hmarked.mp h).2
    | case4 => exact fun h => absurd h Bool.false_ne_true
  · intro h
    cases h with
    | absent => rfl
    | present hmark hne hdigits =>
        rcases hmark with rfl | rfl
        · exact hmarked.mpr ⟨hne, hdigits⟩
        · exact hmarked.mpr ⟨hne, hdigits⟩

/-- Where an exponent starts, the digits before it have ended. -/
theorem Exponent.isDigit_head {rest : List Char} (h : Exponent rest) :
    ∀ c ∈ rest.head?, c.isDigit = false := by
  intro c hc
  cases h with
  | absent => cases hc
  | present hmark =>
      cases hc
      rcases hmark with rfl | rfl <;> rfl

theorem Exponent.isFraction {rest : List Char} (h : Exponent rest) : isFraction rest = true := by
  have hread : isExponent rest = true := isExponent_iff.mpr h
  cases h with
  | absent => rfl
  | present hmark =>
      rcases hmark with rfl | rfl
      · exact hread
      · exact hread

theorem dropWhile_isDigit_append {digits rest : List Char}
    (hdigits : ∀ c ∈ digits, c.isDigit = true) (hrest : ∀ c ∈ rest.head?, c.isDigit = false) :
    (digits ++ rest).dropWhile Char.isDigit = rest := by
  rw [List.dropWhile_append_of_pos hdigits]
  cases rest with
  | nil => rfl
  | cons c rest => rw [List.dropWhile_cons, hrest c rfl, if_neg Bool.false_ne_true]

theorem isUnsignedNumber_append {digits rest : List Char} (hne : digits ≠ [])
    (hdigits : ∀ c ∈ digits, c.isDigit = true) (hrest : ∀ c ∈ rest.head?, c.isDigit = false) :
    isUnsignedNumber (digits ++ rest) = isFraction rest := by
  rw [isUnsignedNumber, dropWhile_isDigit_append hdigits hrest]
  obtain ⟨d, digits, rfl⟩ := List.exists_cons_of_ne_nil hne
  have hd : d.isDigit = true := hdigits d List.mem_cons_self
  rw [List.cons_append, List.head?_cons, Option.any_some, hd, Bool.true_and]

theorem Number.of_isFraction {digits rest : List Char} (hne : digits ≠ [])
    (hdigits : ∀ c ∈ digits, c.isDigit = true) (h : isFraction rest = true) :
    Number (digits ++ rest) := by
  revert h
  fun_cases isFraction rest with
  | case1 rest =>
      intro hexponent
      rw [← List.takeWhile_append_dropWhile (p := Char.isDigit) (l := rest)]
      exact .pointed hne hdigits (List.all_eq_true.mp List.all_takeWhile)
        (isExponent_iff.mp hexponent)
  | case2 => exact fun hexponent => .whole hne hdigits (isExponent_iff.mp hexponent)

theorem isUnsignedNumber_iff {text : List Char} : isUnsignedNumber text = true ↔ Number text := by
  constructor
  · intro h
    obtain ⟨hhead, hfraction⟩ := Bool.and_eq_true_iff.mp h
    have hne : text.takeWhile Char.isDigit ≠ [] := by
      cases text with
      | nil => cases hhead
      | cons c text =>
          rw [List.head?_cons, Option.any_some] at hhead
          rw [List.takeWhile_cons_of_pos hhead]
          exact List.cons_ne_nil _ _
    rw [← List.takeWhile_append_dropWhile (p := Char.isDigit) (l := text)]
    exact .of_isFraction hne (List.all_eq_true.mp List.all_takeWhile) hfraction
  · intro h
    cases h with
    | whole hne hdigits hrest =>
        rw [isUnsignedNumber_append hne hdigits hrest.isDigit_head]
        exact hrest.isFraction
    | @pointed digits decimals rest hne hdigits hdecimals hrest =>
        have hpoint : ∀ c ∈ ('.' :: (decimals ++ rest)).head?, c.isDigit = false := by
          intro c hc
          cases hc
          rfl
        rw [isUnsignedNumber_append hne hdigits hpoint, isFraction,
          dropWhile_isDigit_append hdecimals hrest.isDigit_head]
        exact isExponent_iff.mpr hrest

theorem readWord?_of_isDigit {c : Char} (hc : c.isDigit = true) (digits : List Char) :
    readWord? (c :: digits) = (readNat? (c :: digits)).filter (· < UInt64.size) := by
  rw [readWord?]
  intro _ h
  cases h
  cases hc

theorem readWord?_numeral {n : Numeral} (hsign : n.sign ≠ .minus)
    (hmax : digitsValue n.digits ≤ 18446744073709551615) :
    readWord? n.chars = some (digitsValue n.digits) := by
  obtain ⟨sign, digits, hne⟩ := n
  have hread : readNat? (digitChars digits) = some (digitsValue digits) :=
    readNat?_eq_some_iff.mpr ⟨digits, hne, rfl, rfl⟩
  have hword : (readNat? (digitChars digits)).filter (· < UInt64.size) =
      some (digitsValue digits) := by
    rw [hread, Option.filter_some, if_pos]
    exact decide_eq_true (Nat.lt_succ_of_le hmax)
  cases sign with
  | minus => exact absurd rfl hsign
  | plus => exact hword
  | bare =>
      obtain ⟨d, digits, rfl⟩ := List.exists_cons_of_ne_nil hne
      exact (readWord?_of_isDigit (isDigit_iff_exists.mpr ⟨d, rfl⟩) _).trans hword

end Text

namespace CommandLine

/-! ### Positional arguments -/

/-- The arguments that are tokens of the script wherever they stand. The empty text is one of the first kind. -/
inductive Positional : String → Prop where
  | undashed {text : String} (h : text.toList.head? ≠ some '-') : Positional text
  | dash : Positional "-"
  | negative {number : List Char} (h : Text.Number number) :
      Positional (String.ofList ('-' :: number))

namespace Argument

theorem ofShort?_ne_token (letters : List Char) (text : String) :
    ofShort? letters ≠ some (.token text) := by
  fun_induction ofShort? letters with
  | case2 _ ih => exact ih
  | _ => simp

theorem ofLong?_ne_token (name : List Char) (text : String) :
    ofLong? name ≠ some (.token text) := by
  rw [ofLong?]
  split
  · repeat' split
    all_goals simp
  · repeat' split
    all_goals simp

/-- Behind a dash that is followed by neither nothing nor a second dash stand a number or short options. -/
theorem ofString?_dash {c : Char} (hc : c ≠ '-') (rest : List Char) :
    ofString? (String.ofList ('-' :: c :: rest)) =
      if Text.isUnsignedNumber (c :: rest) then some (.token (String.ofList ('-' :: c :: rest)))
      else ofShort? (c :: rest) := by
  rw [ofString?, String.toList_ofList]
  split
  · rename_i h
    cases h
    exact absurd rfl hc
  · rename_i h
    cases h
    exact absurd rfl hc
  · rename_i h
    cases h
  · rename_i h
    cases h
    rfl
  · rename_i h
    exact absurd rfl (h _)

theorem ofString?_of_head?_ne {text : String} (h : text.toList.head? ≠ some '-') :
    ofString? text = some (.token text) := by
  rw [ofString?]
  split
  case h_5 => rfl
  all_goals
    rename_i hdash
    exact absurd (congrArg List.head? hdash) h

theorem ofString?_negative {number : List Char} (h : Text.Number number) :
    ofString? (String.ofList ('-' :: number)) =
      some (.token (String.ofList ('-' :: number))) := by
  have hnumber : Text.isUnsignedNumber number = true := Text.isUnsignedNumber_iff.mpr h
  cases number with
  | nil => cases hnumber
  | cons c rest =>
      have hc : c ≠ '-' := by
        rintro rfl
        cases hnumber
      rw [ofString?_dash hc, if_pos hnumber]

theorem positional_of_ofString? {text : String} (h : ofString? text = some (.token text)) :
    Positional text := by
  rw [ofString?] at h
  split at h
  · cases h
  · exact absurd h (ofLong?_ne_token _ _)
  · rename_i hdash
    rw [← String.ofList_toList (s := text), hdash]
    exact .dash
  · rename_i number _ _ hdash
    split at h
    · rename_i hnumber
      rw [← String.ofList_toList (s := text), hdash]
      exact .negative (Text.isUnsignedNumber_iff.mp hnumber)
    · exact absurd h (ofShort?_ne_token _ _)
  · rename_i hundashed
    apply Positional.undashed
    intro hhead
    obtain ⟨rest, hrest⟩ := List.head?_eq_some_iff.mp hhead
    exact hundashed rest hrest

theorem ofString?_eq_token_iff {text : String} :
    ofString? text = some (.token text) ↔ Positional text := by
  refine ⟨positional_of_ofString?, ?_⟩
  intro h
  cases h with
  | undashed h => exact ofString?_of_head?_ne h
  | dash => decide +kernel
  | negative h => exact ofString?_negative h

end Argument

/-! ### Settings in writing -/

/-- What an option asks for. -/
inductive Setting where
  | verbose
  | strict
  | format (format : Format)
  | limit (limit : Nat)
  deriving DecidableEq

def Format.name : Format → String
  | .plain => "plain"
  | .json => "json"

def Key.name : Key → String
  | .format => "format"
  | .limit => "max-script-len"

/-- The texts that an option takes for its value, and what they set. -/
inductive Value : Key → String → Setting → Prop where
  | format (f : Format) : Value .format f.name (.format f)
  | limit {n : Text.Numeral} (hsign : n.sign ≠ .minus)
      (hmax : Text.digitsValue n.digits ≤ 18446744073709551615) :
      Value .limit (String.ofList n.chars) (.limit (Text.digitsValue n.digits))

/-- The arguments that a setting may be written as. A short option may share its dash with any number of `v`. -/
inductive Written : Setting → List String → Prop where
  | strict : Written .strict ["--strict"]
  | verbose : Written .verbose ["--verbose"]
  | cluster (n : Nat) : Written .verbose [String.ofList ('-' :: List.replicate (n + 1) 'v')]
  | longNext {key : Key} {text : String} {s : Setting} (h : Value key text s) :
      Written s ["--" ++ key.name, text]
  | longEquals {key : Key} {text : String} {s : Setting} (h : Value key text s) :
      Written s ["--" ++ key.name ++ "=" ++ text]
  | shortNext (n : Nat) {text : String} {s : Setting} (h : Value .format text s) :
      Written s [String.ofList ('-' :: (List.replicate n 'v' ++ ['f'])), text]
  | shortJoined (n : Nat) {text : String} {s : Setting} (h : Value .format text s) :
      Written s [String.ofList ('-' :: (List.replicate n 'v' ++ 'f' :: text.toList))]
  | shortEquals (n : Nat) {text : String} {s : Setting} (h : Value .format text s) :
      Written s [String.ofList ('-' :: (List.replicate n 'v' ++ 'f' :: '=' :: text.toList))]

namespace Argument

theorem ofString?_long (key : Key) : ofString? ("--" ++ key.name) = some (.await key) := by
  cases key <;> decide +kernel

theorem ofString?_longEquals (key : Key) (text : String) :
    ofString? ("--" ++ key.name ++ "=" ++ text) = some (.set key text) := by
  have hlist : ("--" ++ key.name ++ "=" ++ text).toList =
      '-' :: '-' :: (key.name.toList ++ '=' :: text.toList) := by
    simp
  rw [ofString?, hlist]
  cases key <;> simp [Key.name, ofLong?]

/-- Any number of `v` in front of the other letters changes nothing, and letters are no number. -/
theorem ofString?_short (n : Nat) {c : Char} (hc : c = 'v' ∨ c = 'f') (rest : List Char) :
    ofString? (String.ofList ('-' :: (List.replicate n 'v' ++ c :: rest))) =
      ofShort? (c :: rest) := by
  have hskip : ofShort? (List.replicate n 'v' ++ c :: rest) = ofShort? (c :: rest) := by
    induction n with
    | zero => rfl
    | succ n ih => exact ih
  have hfirst : ∃ d letters, List.replicate n 'v' ++ c :: rest = d :: letters ∧
      (d = 'v' ∨ d = 'f') := by
    cases n with
    | zero => exact ⟨c, rest, rfl, hc⟩
    | succ n => exact ⟨'v', _, rfl, .inl rfl⟩
  obtain ⟨d, letters, hletters, hd⟩ := hfirst
  rw [← hskip, hletters]
  rcases hd with rfl | rfl
  · exact ofString?_dash (by decide) letters
  · exact ofString?_dash (by decide) letters

theorem ofString?_cluster (n : Nat) :
    ofString? (String.ofList ('-' :: List.replicate (n + 1) 'v')) = some .verbose := by
  rw [List.replicate_succ', ofString?_short n (.inl rfl)]
  rfl

end Argument

/-! ### Taking in a setting -/

namespace Options

/-- All settings but the verbosity are taken in only once. -/
def take? (o : Options) : Setting → Option Options
  | .verbose => some o
  | .strict => o.setStrict?
  | .format f => if o.format?.isSome then none else some { o with format? := some f }
  | .limit n => if o.limit?.isSome then none else some { o with limit? := some n }

theorem set?_value {key : Key} {text : String} {s : Setting} (h : Value key text s) (o : Options) :
    o.set? text key = o.take? s := by
  cases h with
  | format f =>
      have hread : Format.ofString? f.name = some f := by
        cases f <;> decide +kernel
      rw [set?, hread]
      rfl
  | limit hsign hmax =>
      rw [set?, String.toList_ofList, Text.readWord?_numeral hsign hmax]
      rfl

section
variable (o : Options) {arg : String} (rest : List String)

theorem parseFrom?_positional (h : Positional arg) :
    o.parseFrom? (arg :: rest) = (o.addTokens [arg]).parseFrom? rest := by
  rw [parseFrom?, Argument.ofString?_eq_token_iff.mpr h]

theorem parseFrom?_endOfOptions : o.parseFrom? ("--" :: rest) = some (o.addTokens rest) := by
  have hread : Argument.ofString? "--" = some .endOfOptions := by decide +kernel
  rw [parseFrom?, hread]

variable {key : Key} {text : String} {s : Setting}

theorem parseFrom?_set (harg : Argument.ofString? arg = some (.set key text))
    (h : Value key text s) :
    o.parseFrom? (arg :: rest) = (o.take? s).bind fun o => o.parseFrom? rest := by
  rw [parseFrom?, harg, ← set?_value h]

theorem parseFrom?_await (harg : Argument.ofString? arg = some (.await key))
    (h : Value key text s) :
    o.parseFrom? (arg :: text :: rest) = (o.take? s).bind fun o => o.parseFrom? rest := by
  rw [parseFrom?, harg, ← set?_value h]

/-- A setting in writing is taken in as one, and the parser goes on behind it. -/
theorem parseFrom?_written {args : List String} (h : Written s args) :
    o.parseFrom? (args ++ rest) = (o.take? s).bind fun o => o.parseFrom? rest := by
  cases h with
  | strict =>
      have hread : Argument.ofString? "--strict" = some .strict := by decide +kernel
      rw [List.singleton_append, parseFrom?, hread]
      rfl
  | verbose =>
      have hread : Argument.ofString? "--verbose" = some .verbose := by decide +kernel
      rw [List.singleton_append, parseFrom?, hread]
      rfl
  | cluster n =>
      rw [List.singleton_append, parseFrom?, Argument.ofString?_cluster]
      rfl
  | longNext h => exact o.parseFrom?_await rest (Argument.ofString?_long _) h
  | longEquals h => exact o.parseFrom?_set rest (Argument.ofString?_longEquals _ _) h
  | shortNext n h => exact o.parseFrom?_await rest (Argument.ofString?_short n (.inr rfl) _) h
  | @shortJoined n text s h =>
      have hread : Argument.ofShort? ('f' :: text.toList) = some (.set .format text) := by
        -- A value does not start with the equals sign that would be dropped.
        cases h with
        | format f => cases f <;> decide +kernel
      exact o.parseFrom?_set rest ((Argument.ofString?_short n (.inr rfl) _).trans hread) h
  | @shortEquals n text s h =>
      have hread : Argument.ofShort? ('f' :: '=' :: text.toList) = some (.set .format text) := by
        rw [Argument.ofShort?, String.ofList_toList]
      exact o.parseFrom?_set rest ((Argument.ofString?_short n (.inr rfl) _).trans hread) h

end

end Options

end CommandLine

end ScriptTrace
