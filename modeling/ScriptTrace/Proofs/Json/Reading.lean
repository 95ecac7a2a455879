import Mathlib.Data.List.Basic
import ScriptTrace.Proofs.Source.RoundTrip
import ScriptTrace.Text.Json

/-!
# Reading compact JSON text

A reader for compact JSON text, which takes one value off the front of a text and gives back what follows. A string ends at its first quote that is not escaped, a list or an object at its closing bracket, and a numeral, which has no end of its own, where the characters of numerals stop. The reader is the inverse of the writer: from the compact text of a value it recovers that value. So no two values have the same text, whatever their strings contain.
-/

namespace ScriptTrace.Json

/-! ### The reader -/

/-- The number that a hexadecimal digit stands for. -/
def hexValue (c : Char) : Nat := if c.isDigit then c.toNat - 48 else c.toNat - 87

/-- The character that a letter after a backslash stands for. -/
def unescape? : Char → Option Char
  | '"' => some '"'
  | '\\' => some '\\'
  | 'n' => some '\n'
  | 'r' => some '\r'
  | 't' => some '\t'
  | 'b' => some '\x08'
  | 'f' => some '\x0c'
  | _ => none

/-- The characters of a string up to its closing quote, and what follows. -/
def readChars : List Char → Option (List Char × List Char)
  | '"' :: rest => some ([], rest)
  | '\\' :: 'u' :: '0' :: '0' :: a :: b :: rest => do
    let (text, rest) ← readChars rest
    return (.ofNat (16 * hexValue a + hexValue b) :: text, rest)
  | '\\' :: c :: rest => do
    let c ← unescape? c
    let (text, rest) ← readChars rest
    return (c :: text, rest)
  | c :: rest => do
    let (text, rest) ← readChars rest
    return (c :: text, rest)
  | [] => none

/-- The characters that numerals are made of. -/
def isNumeric (c : Char) : Bool := c.isDigit || c == '-'

def readNumber (text : List Char) : Option (Json × List Char) := do
  let n ← Text.readInt? (text.takeWhile isNumeric)
  return (.int n, text.dropWhile isNumeric)

section

variable {α : Type}

/-- The parts after a first one, each behind a comma, up to the closing bracket. -/
def readMore (close : Char) (part : List Char → Option (α × List Char)) :
    Nat → List Char → Option (List α × List Char)
  | fuel + 1, ',' :: text => do
    let (x, rest) ← part text
    let (xs, rest) ← readMore close part fuel rest
    return (x :: xs, rest)
  | _, c :: rest => if c = close then some ([], rest) else none
  | _, [] => none

/-- Any number of parts up to the closing bracket. -/
def readParts (close : Char) (part : List Char → Option (α × List Char)) :
    List Char → Option (List α × List Char)
  | [] => none
  | c :: text =>
    if c = close then some ([], text)
    else do
      let (x, rest) ← part (c :: text)
      let (xs, rest) ← readMore close part rest.length rest
      return (x :: xs, rest)

end

def readField (value : List Char → Option (Json × List Char)) :
    List Char → Option ((String × Json) × List Char)
  | '"' :: text => do
    let (key, rest) ← readChars text
    match rest with
    | ':' :: rest => do
      let (v, rest) ← value rest
      return ((String.ofList key, v), rest)
    | _ => none
  | _ => none

/-- A value nested at most as deep as the given bound, and what follows. -/
def readValue : Nat → List Char → Option (Json × List Char)
  | bound + 1, '[' :: text => do
    let (items, rest) ← readParts ']' (readValue bound) text
    return (.arr items, rest)
  | bound + 1, '\x7b' :: text => do
    let (fields, rest) ← readParts '\x7d' (readField (readValue bound)) text
    return (.obj fields, rest)
  | _, '"' :: text => do
    let (s, rest) ← readChars text
    return (.str (String.ofList s), rest)
  | _, 't' :: 'r' :: 'u' :: 'e' :: rest => some (.bool true, rest)
  | _, 'f' :: 'a' :: 'l' :: 's' :: 'e' :: rest => some (.bool false, rest)
  | _, text => readNumber text

/-- The value that a text is the compact text of. A text is longer than its brackets are nested. -/
def read? (text : String) : Option Json :=
  match readValue text.toList.length text.toList with
  | some (value, []) => some value
  | _ => none

/-! ### Strings -/

theorem hexValue_digitChar {d : Nat} (h : d < 16) : hexValue d.digitChar = d := by
  have hall : ∀ d : Fin 16, hexValue d.val.digitChar = d.val := by
    decide
  exact hall ⟨d, h⟩

theorem readChars_hex {code : Nat} (h : code < 256) (rest : List Char) :
    readChars ('\\' :: 'u' :: '0' :: '0' :: (code / 16).digitChar :: (code % 16).digitChar :: rest) =
      (readChars rest).map (Prod.map (.ofNat code :: ·) id) := by
  have hcode : 16 * (code / 16) + code % 16 = code := Nat.div_add_mod _ 16
  rw [readChars, hexValue_digitChar (by omega), hexValue_digitChar (by omega), hcode]
  cases readChars rest <;> rfl

theorem readChars_short {letter c : Char} (h : unescape? letter = some c) (rest : List Char) :
    readChars ('\\' :: letter :: rest) = (readChars rest).map (Prod.map (c :: ·) id) := by
  rw [readChars, h]
  · cases readChars rest <;> rfl
  · rintro _ _ _ rfl
    cases h

theorem readChars_cons {c : Char} (hquote : c ≠ '"') (hbackslash : c ≠ '\\') (rest : List Char) :
    readChars (c :: rest) = (readChars rest).map (Prod.map (c :: ·) id) := by
  rw [readChars]
  · cases readChars rest <;> rfl
  · exact hquote
  · exact fun _ _ _ h => absurd h hbackslash
  · exact fun _ _ h => absurd h hbackslash

/-- What the writer makes of a character is read as that character. -/
theorem readChars_escape (c : Char) (rest : List Char) :
    readChars (escape c ++ rest) = (readChars rest).map (Prod.map (c :: ·) id) := by
  fun_cases escape c
  case case8 hcontrol =>
    have hread := readChars_hex (show c.toNat < 256 by omega) rest
    rwa [Char.ofNat_toNat] at hread
  case case9 hquote hbackslash _ _ _ _ _ _ => exact readChars_cons hquote hbackslash rest
  all_goals exact readChars_short rfl rest

theorem readChars_flatMap_escape (text rest : List Char) :
    readChars (text.flatMap escape ++ '"' :: rest) = some (text, rest) := by
  induction text with
  | nil => rw [List.flatMap_nil, List.nil_append, readChars]
  | cons c text ih =>
      rw [List.flatMap_cons, List.append_assoc, readChars_escape, ih]
      rfl

theorem toList_quote (text : String) :
    (quote text).toList = '"' :: (text.toList.flatMap escape ++ ['"']) := by
  simp [quote]

/-! ### Numerals -/

/-- What follows does not go on with a numeral. -/
def Ends (rest : List Char) : Prop := ∀ c ∈ rest.head?, isNumeric c = false

theorem ends_cons {c : Char} (hc : isNumeric c = false) (rest : List Char) : Ends (c :: rest) := by
  intro d hd
  cases hd
  exact hc

theorem Ends.takeWhile_eq {rest : List Char} (h : Ends rest) : rest.takeWhile isNumeric = [] := by
  cases rest with
  | nil => rfl
  | cons c rest => rw [List.takeWhile_cons, h c rfl, if_neg Bool.false_ne_true]

theorem Ends.dropWhile_eq {rest : List Char} (h : Ends rest) : rest.dropWhile isNumeric = rest := by
  cases rest with
  | nil => rfl
  | cons c rest => rw [List.dropWhile_cons, h c rfl, if_neg Bool.false_ne_true]

theorem isNumeric_of_mem_toString {n : Int} {c : Char} (hc : c ∈ (toString n).toList) :
    isNumeric c = true := by
  rw [isNumeric, Bool.or_eq_true, beq_iff_eq]
  exact Text.isDigit_or_eq_minus_of_mem_toString hc

theorem readNumber_append (n : Int) {rest : List Char} (h : Ends rest) :
    readNumber ((toString n).toList ++ rest) = some (.int n, rest) := by
  have hnumeric : ∀ c ∈ (toString n).toList, isNumeric c = true := fun _ => isNumeric_of_mem_toString
  rw [readNumber, List.takeWhile_append_of_pos hnumeric, List.dropWhile_append_of_pos hnumeric,
    h.takeWhile_eq, h.dropWhile_eq, List.append_nil, Text.readInt?_toString]
  rfl

/-! ### Parts between brackets -/

section

variable {α : Type} {close : Char} {part : List Char → Option (α × List Char)} {w : α → List Char}

/-- The reader recovers a part from its text, if no numeral goes on after it. -/
def Recovers (part : List Char → Option (α × List Char)) (text : List Char) (x : α) : Prop :=
  ∀ rest, Ends rest → part (text ++ rest) = some (x, rest)

theorem intercalate_map_cons (w : α → List Char) (x : α) (xs : List α) :
    [','].intercalate ((x :: xs).map w) = w x ++ xs.flatMap fun y => ',' :: w y := by
  induction xs generalizing x with
  | nil => rw [List.map_singleton, List.intercalate_singleton, List.flatMap_nil, List.append_nil]
  | cons y xs ih =>
      rw [List.map_cons, List.map_cons, List.intercalate_cons_cons, ← List.map_cons, ih, List.flatMap_cons,
        List.append_assoc, List.singleton_append, List.cons_append]

/-- There is a comma for each part after the first. -/
theorem length_le_length_more (close : Char) (rest : List Char) (w : α → List Char) (xs : List α) :
    xs.length ≤ (xs.flatMap (fun x => ',' :: w x) ++ close :: rest).length := by
  induction xs with
  | nil => exact Nat.zero_le _
  | cons x xs ih =>
      rw [List.length_append] at ih ⊢
      rw [List.flatMap_cons, List.length_cons, List.length_append, List.length_cons]
      omega

theorem ends_more (hclose : isNumeric close = false) (w : α → List Char) (xs : List α)
    (rest : List Char) : Ends (xs.flatMap (fun x => ',' :: w x) ++ close :: rest) := by
  cases xs with
  | nil => exact ends_cons hclose _
  | cons x xs => exact ends_cons (by decide) _

variable (hclose : isNumeric close = false) {xs : List α} (rest : List Char)

include hclose

theorem readMore_append (hcomma : close ≠ ',') (hxs : ∀ x ∈ xs, Recovers part (w x) x) {fuel : Nat}
    (hfuel : xs.length ≤ fuel) :
    readMore close part fuel (xs.flatMap (fun x => ',' :: w x) ++ close :: rest) = some (xs, rest) := by
  induction xs generalizing fuel with
  | nil =>
      rw [List.flatMap_nil, List.nil_append, readMore, if_pos rfl]
      exact fun _ _ h => absurd h hcomma
  | cons x xs ih =>
      obtain ⟨fuel, rfl⟩ : ∃ k, fuel = k + 1 := ⟨fuel - 1, by rw [List.length_cons] at hfuel; omega⟩
      have hx : Recovers part (w x) x := hxs x List.mem_cons_self
      have hrest := ih (fun y hy => hxs y (List.mem_cons_of_mem x hy)) (Nat.le_of_succ_le_succ hfuel)
      rw [List.flatMap_cons, List.cons_append, List.cons_append, List.append_assoc, readMore,
        hx _ (ends_more hclose w xs rest)]
      change (do
        let (xs, rest) ← readMore close part fuel (xs.flatMap (fun x => ',' :: w x) ++ close :: rest)
        return (x :: xs, rest)) = _
      rw [hrest]
      rfl

/-- Parts with commas between them are read back, if the closing bracket begins none of them. -/
theorem readParts_append (hcomma : close ≠ ',') (hrefused : ∀ text, part (close :: text) = none)
    (hxs : ∀ x ∈ xs, Recovers part (w x) x) :
    readParts close part ([','].intercalate (xs.map w) ++ close :: rest) = some (xs, rest) := by
  cases xs with
  | nil => rw [List.map_nil, List.intercalate_nil, List.nil_append, readParts, if_pos rfl]
  | cons x xs =>
      rw [intercalate_map_cons, List.append_assoc]
      have hfirst := hxs x List.mem_cons_self _ (ends_more hclose w xs rest)
      have hmore := readMore_append hclose rest hcomma
        (fun y hy => hxs y (List.mem_cons_of_mem x hy)) (length_le_length_more close rest w xs)
      cases htext : w x ++ (xs.flatMap (fun y => ',' :: w y) ++ close :: rest) with
      | nil => simp at htext
      | cons c text =>
          rw [htext] at hfirst
          have hc : c ≠ close := by
            rintro rfl
            rw [hrefused] at hfirst
            cases hfirst
          rw [readParts, if_neg hc, hfirst]
          change (do
            let (xs, rest) ← readMore close part _ (xs.flatMap (fun y => ',' :: w y) ++ close :: rest)
            return (x :: xs, rest)) = _
          rw [hmore]
          rfl

end

/-! ### Values -/

/-- Induction on values: a list or an object has a property if all its elements have it. -/
@[elab_as_elim] theorem induction {motive : Json → Prop} (int : ∀ n, motive (.int n))
    (bool : ∀ b, motive (.bool b)) (str : ∀ text, motive (.str text))
    (arr : ∀ items, (∀ item ∈ items, motive item) → motive (.arr items))
    (obj : ∀ fields, (∀ field ∈ fields, motive field.2) → motive (.obj fields)) :
    ∀ value, motive value
  | .int n => int n
  | .bool b => bool b
  | .str text => str text
  | .arr items => arr items fun item _ => induction int bool str arr obj item
  | .obj fields => obj fields fun field _ => induction int bool str arr obj field.2
termination_by value => sizeOf value
decreasing_by
  · have hlt := List.sizeOf_lt_of_mem ‹item ∈ items›
    rw [Json.arr.sizeOf_spec]
    omega
  · have hlt := List.sizeOf_lt_of_mem ‹field ∈ fields›
    have hfield : sizeOf field = 1 + sizeOf field.1 + sizeOf field.2 := rfl
    rw [Json.obj.sizeOf_spec]
    omega

theorem renderItems_eq_map (layout : Layout) (depth : Nat) (items : List Json) :
    renderItems layout depth items = items.map (render layout depth) := by
  induction items with
  | nil => rw [renderItems, List.map_nil]
  | cons item items ih => rw [renderItems, List.map_cons, ih]

theorem renderFields_eq_map (layout : Layout) (depth : Nat) (fields : List (String × Json)) :
    renderFields layout depth fields =
      fields.map fun field => quote field.1 ++ layout.colon ++ render layout depth field.2 := by
  induction fields with
  | nil => rw [renderFields, List.map_nil]
  | cons field fields ih => rw [renderFields, List.map_cons, ih]

theorem toList_enclose_compact (depth : Nat) (left right : String) (parts : List String) :
    (enclose .compact depth left right parts).toList =
      left.toList ++ [','].intercalate (parts.map String.toList) ++ right.toList := by
  cases parts with
  | nil => simp [enclose]
  | cons p parts => simp [enclose, Layout.compact, String.toList_intercalate]

theorem toList_render_arr (depth : Nat) (items : List Json) :
    (render .compact depth (.arr items)).toList =
      '[' :: ([','].intercalate (items.map fun item => (render .compact (depth + 1) item).toList) ++
        [']']) := by
  rw [render, toList_enclose_compact, renderItems_eq_map, List.map_map]
  rfl

theorem toList_render_obj (depth : Nat) (fields : List (String × Json)) :
    (render .compact depth (.obj fields)).toList =
      '\x7b' :: ([','].intercalate (fields.map fun field =>
        (quote field.1).toList ++ ':' :: (render .compact (depth + 1) field.2).toList) ++ ['\x7d']) := by
  have hfield : ∀ field : String × Json,
      (quote field.1 ++ Layout.compact.colon ++ render .compact (depth + 1) field.2).toList =
        (quote field.1).toList ++ ':' :: (render .compact (depth + 1) field.2).toList := by
    intro field
    simp [Layout.compact]
  rw [render, toList_enclose_compact, renderFields_eq_map, List.map_map]
  simp only [Function.comp_def, hfield]
  rfl

theorem length_le_length_intercalate {α : Type} {w : α → List Char} {x : α} {xs : List α} (h : x ∈ xs) :
    (w x).length ≤ ([','].intercalate (xs.map w)).length := by
  cases xs with
  | nil => cases h
  | cons y xs =>
      rw [intercalate_map_cons, List.length_append]
      rcases List.mem_cons.mp h with rfl | h
      · omega
      · have hle := (List.sublist_flatten_of_mem (List.mem_map_of_mem (f := fun y => ',' :: w y) h)).length_le
        rw [List.flatMap_def]
        rw [List.length_cons] at hle
        omega

theorem readValue_of_isNumeric {c : Char} (hc : isNumeric c = true) (bound : Nat) (text : List Char) :
    readValue bound (c :: text) = readNumber (c :: text) := by
  rw [readValue]
  all_goals
    intros
    rename_i h
    cases h
    cases hc

theorem readValue_of_closing {c : Char} (hc : c = ']' ∨ c = '\x7d') (bound : Nat) (text : List Char) :
    readValue bound (c :: text) = none := by
  cases bound <;> rcases hc with rfl | rfl <;> rfl

theorem readField_append {value : List Char → Option (Json × List Char)} {text : List Char}
    {field : String × Json} (hvalue : Recovers value text field.2) :
    Recovers (readField value) ((quote field.1).toList ++ ':' :: text) field := by
  intro rest hrest
  rw [toList_quote, List.cons_append, List.cons_append, readField, List.append_assoc, List.append_assoc,
    List.singleton_append, readChars_flatMap_escape]
  change (do
    let (v, rest) ← value (text ++ rest)
    return ((String.ofList field.1.toList, v), rest)) = _
  rw [hvalue rest hrest, String.ofList_toList]
  rfl

theorem readValue_render (value : Json) : ∀ depth bound : Nat,
    (render .compact depth value).toList.length ≤ bound →
      Recovers (readValue bound) (render .compact depth value).toList value := by
  induction value using Json.induction with
  | int n =>
      intro depth bound _ rest hrest
      rw [render, ← readNumber_append n hrest]
      cases htext : (toString n).toList with
      | nil => exact absurd htext (Text.toList_toString_ne_nil n)
      | cons c text =>
          have hc : isNumeric c = true := by
            apply isNumeric_of_mem_toString
            rw [htext]
            exact List.mem_cons_self
          rw [List.cons_append, readValue_of_isNumeric hc]
  | bool b =>
      intro depth bound _ rest _
      rw [render]
      cases b <;> cases bound <;> rfl
  | str text =>
      intro depth bound _ rest _
      rw [render, toList_quote, List.cons_append, readValue, List.append_assoc, List.singleton_append,
        readChars_flatMap_escape]
      change some (Json.str (String.ofList text.toList), rest) = _
      rw [String.ofList_toList]
  | arr items ih =>
      intro depth bound hbound rest _
      rw [toList_render_arr] at hbound ⊢
      rw [List.length_cons, List.length_append] at hbound
      obtain ⟨bound, rfl⟩ : ∃ k, bound = k + 1 := ⟨bound - 1, by omega⟩
      have hitems : ∀ item ∈ items,
          Recovers (readValue bound) (render .compact (depth + 1) item).toList item := by
        intro item hitem
        have hle := length_le_length_intercalate
          (w := fun item => (render .compact (depth + 1) item).toList) hitem
        exact ih item hitem (depth + 1) bound (by omega)
      rw [List.cons_append, readValue, List.append_assoc, List.singleton_append,
        readParts_append (by decide) rest (by decide) (readValue_of_closing (.inl rfl) bound) hitems]
      rfl
  | obj fields ih =>
      intro depth bound hbound rest _
      rw [toList_render_obj] at hbound ⊢
      rw [List.length_cons, List.length_append] at hbound
      obtain ⟨bound, rfl⟩ : ∃ k, bound = k + 1 := ⟨bound - 1, by omega⟩
      have hfields : ∀ field ∈ fields, Recovers (readField (readValue bound))
          ((quote field.1).toList ++ ':' :: (render .compact (depth + 1) field.2).toList) field := by
        intro field hfield
        have hle := length_le_length_intercalate (w := fun field : String × Json =>
          (quote field.1).toList ++ ':' :: (render .compact (depth + 1) field.2).toList) hfield
        rw [List.length_append, List.length_cons] at hle
        exact readField_append (ih field hfield (depth + 1) bound (by omega))
      rw [List.cons_append, readValue, List.append_assoc, List.singleton_append,
        readParts_append (by decide) rest (by decide) (fun _ => rfl) hfields]
      rfl

/-- **The text of a value determines it.** What the compact writer writes, the reader reads. -/
theorem read?_compact (value : Json) : read? value.compact = some value := by
  have hread := readValue_render value 0 _ (Nat.le_refl _) [] nofun
  rw [List.append_nil] at hread
  rw [read?, compact, hread]

theorem compact_injective {value other : Json} (h : value.compact = other.compact) : value = other := by
  have hread := read?_compact value
  rw [h, read?_compact] at hread
  exact (Option.some.inj hread).symm

end ScriptTrace.Json
