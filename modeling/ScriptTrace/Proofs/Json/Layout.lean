import Mathlib.Data.List.Forall2
import ScriptTrace.Proofs.Json.Reading
import ScriptTrace.Trace.Render

/-!
# Layout and content

The two layouts of a JSON text differ in blanks, and only in blanks that do not belong to a string. `squeeze` goes through a text, keeps track of whether it is inside a string, and leaves out the blanks that are not; from the text of a value in any layout that adds only blanks it makes the compact one. A piece of text that begins and ends outside of strings can be squeezed by itself, so the proof follows the text as it is put together.
-/

namespace ScriptTrace.Json

/-! ### The scan -/

/-- Where a scan of a text is. -/
inductive Region where
  | outside | inside
  /-- In a string, after a backslash. -/
  | escaped
  deriving DecidableEq

def Region.next : Region → Char → Region
  | .outside, c => if c = '"' then .inside else .outside
  | .inside, c => if c = '"' then .outside else if c = '\\' then .escaped else .inside
  | .escaped, _ => .inside

def squeezeFrom (r : Region) : List Char → List Char
  | [] => []
  | c :: text =>
    if r = .outside ∧ Text.isBlank c = true then squeezeFrom (r.next c) text
    else c :: squeezeFrom (r.next c) text

/-- The text without the blanks that are not in strings. -/
def squeeze (text : String) : String := String.ofList (squeezeFrom .outside text.toList)

theorem squeezeFrom_append (r : Region) (a b : List Char) :
    squeezeFrom r (a ++ b) = squeezeFrom r a ++ squeezeFrom (a.foldl Region.next r) b := by
  induction a generalizing r with
  | nil => rfl
  | cons c a ih =>
      rw [List.cons_append, squeezeFrom, squeezeFrom, ih, List.foldl_cons]
      by_cases hblank : r = .outside ∧ Text.isBlank c = true
      · rw [if_pos hblank, if_pos hblank]
      · rw [if_neg hblank, if_neg hblank, List.cons_append]

/-! ### Strings -/

/-- Inside of a string the text is kept, and does not end the string. -/
def Stays (text : List Char) : Prop :=
  text.foldl Region.next .inside = .inside ∧ squeezeFrom .inside text = text

instance (text : List Char) : Decidable (Stays text) := inferInstanceAs (Decidable (_ ∧ _))

theorem Stays.append {a b : List Char} (ha : Stays a) (hb : Stays b) : Stays (a ++ b) := by
  constructor
  · rw [List.foldl_append, ha.1, hb.1]
  · rw [squeezeFrom_append, ha.1, ha.2, hb.2]

theorem stays_escape (c : Char) : Stays (escape c) := by
  fun_cases escape c
  case case8 hcontrol =>
    have hall : ∀ code : Fin 32, Stays ['\\', 'u', '0', '0', (code.val / 16).digitChar,
        (code.val % 16).digitChar] := by
      decide
    exact hall ⟨c.toNat, hcontrol⟩
  case case9 hquote hbackslash _ _ _ _ _ _ =>
    have hnext : Region.inside.next c = .inside := by
      rw [Region.next, if_neg hquote, if_neg hbackslash]
    exact ⟨hnext, by simp [squeezeFrom]⟩
  all_goals decide

theorem stays_flatMap_escape (text : List Char) : Stays (text.flatMap escape) := by
  induction text with
  | nil => exact ⟨rfl, rfl⟩
  | cons c text ih =>
      rw [List.flatMap_cons]
      exact (stays_escape c).append ih

/-! ### Pieces -/

/-- A piece of text that begins and ends outside of strings, and what is left of it. -/
structure Squeezes (text left : String) : Prop where
  outside : text.toList.foldl Region.next .outside = .outside
  squeezed : squeezeFrom .outside text.toList = left.toList

theorem Squeezes.squeeze_eq {text left : String} (h : Squeezes text left) : squeeze text = left := by
  rw [squeeze, h.squeezed, String.ofList_toList]

theorem Squeezes.append {a b a' b' : String} (ha : Squeezes a a') (hb : Squeezes b b') :
    Squeezes (a ++ b) (a' ++ b') where
  outside := by rw [String.toList_append, List.foldl_append, ha.outside, hb.outside]
  squeezed := by
    rw [String.toList_append, squeezeFrom_append, ha.outside, ha.squeezed, hb.squeezed,
      String.toList_append]

theorem squeezes_quote (text : String) : Squeezes (quote text) (quote text) := by
  have hstays := stays_flatMap_escape text.toList
  constructor
  · rw [toList_quote, List.foldl_cons, List.foldl_append]
    show List.foldl Region.next (List.foldl Region.next .inside _) ['"'] = _
    rw [hstays.1]
    rfl
  · rw [toList_quote, squeezeFrom, if_neg (by decide), squeezeFrom_append]
    show '"' :: (squeezeFrom .inside _ ++ squeezeFrom (List.foldl Region.next .inside _) ['"']) = _
    rw [hstays.1, hstays.2]
    rfl

/-- Without quotes all is outside. -/
theorem squeezeFrom_outside {text : List Char} (h : ∀ c ∈ text, c ≠ '"') :
    text.foldl Region.next .outside = .outside ∧
      squeezeFrom .outside text = text.filter fun c => !Text.isBlank c := by
  induction text with
  | nil => exact ⟨rfl, rfl⟩
  | cons c text ih =>
      have hnext : Region.outside.next c = .outside := if_neg (h c List.mem_cons_self)
      have hrest := ih fun d hd => h d (List.mem_cons_of_mem c hd)
      simp only [List.foldl_cons, squeezeFrom, hnext, hrest.1, hrest.2, List.filter_cons, true_and]
      cases Text.isBlank c <;> simp

theorem squeezes_solid {text : String}
    (h : ∀ c ∈ text.toList, Text.isBlank c = false ∧ c ≠ '"') : Squeezes text text := by
  have hscan := squeezeFrom_outside fun c hc => (h c hc).2
  refine ⟨hscan.1, ?_⟩
  rw [hscan.2, List.filter_eq_self]
  intro c hc
  rw [(h c hc).1]
  rfl

theorem squeezes_blank {text : String} (h : ∀ c ∈ text.toList, Text.isBlank c = true) :
    Squeezes text "" := by
  have hquote : ∀ c ∈ text.toList, c ≠ '"' := by
    rintro c hc rfl
    cases h _ hc
  have hscan := squeezeFrom_outside hquote
  refine ⟨hscan.1, ?_⟩
  rw [hscan.2, String.toList_empty, List.filter_eq_nil_iff]
  intro c hc
  rw [h c hc]
  decide

theorem squeezes_toString (n : Int) : Squeezes (toString n) (toString n) := by
  refine squeezes_solid fun c hc => ⟨(Text.plain_toString n).isBlank_eq_false hc, ?_⟩
  rintro rfl
  rcases Text.isDigit_or_eq_minus_of_mem_toString hc with hdigit | hminus
  · cases hdigit
  · cases hminus

theorem squeezes_intercalate {sep sep' : String} (hsep : Squeezes sep sep') {parts parts' : List String}
    (h : List.Forall₂ Squeezes parts parts') :
    Squeezes (sep.intercalate parts) (sep'.intercalate parts') := by
  induction h with
  | nil => exact ⟨rfl, rfl⟩
  | cons hpart hparts ih =>
      cases hparts with
      | nil => exact hpart
      | cons hnext hrest =>
          rw [String.intercalate_cons_cons, String.intercalate_cons_cons]
          exact (hpart.append hsep).append ih

/-! ### Layouts -/

/-- The layout is the compact one but for the blanks that it adds. -/
structure Layout.Spaced (layout : Layout) : Prop where
  lead : ∀ depth, ∀ c ∈ (layout.lead depth).toList, Text.isBlank c = true
  colon : ∃ gap : String, layout.colon = ":" ++ gap ∧ ∀ c ∈ gap.toList, Text.isBlank c = true

theorem Layout.spaced_compact : Layout.compact.Spaced where
  lead depth c hc := by cases hc
  colon := ⟨"", rfl, fun c hc => by cases hc⟩

theorem Layout.spaced_indented : Layout.indented.Spaced where
  lead depth c hc := by
    have hlead : c = '\n' ∨ c = ' ' := by
      rw [Layout.indented, String.toList_ofList, List.mem_cons] at hc
      exact hc.imp_right List.eq_of_mem_replicate
    rcases hlead with rfl | rfl <;> decide
  colon := by
    refine ⟨" ", rfl, fun c hc => ?_⟩
    obtain rfl : c = ' ' := List.mem_singleton.mp hc
    decide

section

variable {layout : Layout} (hlayout : layout.Spaced)

include hlayout

theorem squeezes_lead (depth other : Nat) :
    Squeezes (layout.lead depth) (Layout.compact.lead other) :=
  squeezes_blank (hlayout.lead depth)

theorem squeezes_colon : Squeezes layout.colon Layout.compact.colon := by
  obtain ⟨gap, hcolon, hgap⟩ := hlayout.colon
  have hmark : Squeezes ":" ":" := ⟨rfl, rfl⟩
  rw [hcolon]
  exact hmark.append (squeezes_blank hgap)

theorem squeezes_enclose {left right : String} (hleft : Squeezes left left)
    (hright : Squeezes right right) {parts parts' : List String}
    (h : List.Forall₂ Squeezes parts parts') (depth other : Nat) :
    Squeezes (enclose layout depth left right parts)
      (enclose .compact other left right parts') := by
  have hcomma : Squeezes "," "," := ⟨rfl, rfl⟩
  have hseparated :=
    squeezes_intercalate (hcomma.append (squeezes_lead hlayout (depth + 1) (other + 1))) h
  cases h with
  | nil => exact hleft.append hright
  | cons _ _ =>
      exact (((hleft.append (squeezes_lead hlayout _ _)).append hseparated).append
        (squeezes_lead hlayout _ _)).append hright

theorem squeezes_render (value : Json) : ∀ depth other : Nat,
    Squeezes (render layout depth value) (render .compact other value) := by
  induction value using Json.induction with
  | int n =>
      intro depth other
      rw [render, render]
      exact squeezes_toString n
  | bool b =>
      intro depth other
      rw [render, render]
      cases b <;> exact ⟨rfl, rfl⟩
  | str text =>
      intro depth other
      rw [render, render]
      exact squeezes_quote text
  | arr items ih =>
      intro depth other
      rw [render, render, renderItems_eq_map, renderItems_eq_map]
      refine squeezes_enclose hlayout ⟨rfl, rfl⟩ ⟨rfl, rfl⟩ ?_ depth other
      rw [List.forall₂_map_left_iff, List.forall₂_map_right_iff, List.forall₂_same]
      exact fun item hitem => ih item hitem (depth + 1) (other + 1)
  | obj fields ih =>
      intro depth other
      rw [render, render, renderFields_eq_map, renderFields_eq_map]
      refine squeezes_enclose hlayout ⟨rfl, rfl⟩ ⟨rfl, rfl⟩ ?_ depth other
      rw [List.forall₂_map_left_iff, List.forall₂_map_right_iff, List.forall₂_same]
      intro field hfield
      exact ((squeezes_quote field.1).append (squeezes_colon hlayout)).append
        (ih field hfield (depth + 1) (other + 1))

/-- Squeezing takes the layout away and nothing else. -/
theorem squeeze_render (value : Json) (depth : Nat) :
    squeeze (render layout depth value) = value.compact :=
  (squeezes_render hlayout value depth 0).squeeze_eq

end

theorem squeeze_indented (value : Json) : squeeze value.indented = value.compact :=
  squeeze_render Layout.spaced_indented value 0

/-- Blanks, quotes and backslashes in a string stay as they are. -/
example : squeeze (Json.arr [.str "a \" \\", .arr []]).indented = "[\"a \\\" \\\\\",[]]" := by
  decide +kernel

/-- So the indented text determines the value as well. -/
theorem indented_injective {value other : Json} (h : value.indented = other.indented) :
    value = other := by
  apply compact_injective
  rw [← squeeze_indented, h, squeeze_indented]

end ScriptTrace.Json

namespace ScriptTrace

/-- **The layout carries nothing.** The indented text of a trace without the blanks outside of strings is its compact text, and that has no such blanks. -/
theorem squeeze_toJson (t : Trace) :
    Json.squeeze t.toJson.indented = t.toJson.compact ∧
      Json.squeeze t.toJson.compact = t.toJson.compact :=
  ⟨Json.squeeze_indented t.toJson, Json.squeeze_render Json.Layout.spaced_compact t.toJson 0⟩

end ScriptTrace
