import ScriptTrace.Proofs.CommandLine.Arguments
import ScriptTrace.Proofs.CommandLine.Session

/-!
# Arguments in any order

Options and script tokens may be mixed. While the parser goes through an interleaving of tokens with groups of arguments, one group for each setting, the options it holds are at every point what the tokens and the settings so far ask for. What settings ask for is read off their list; since each of them is given once, it does not see their order. So all interleavings of the same tokens with the same groups, in whatever order, end in the same options and the same session, and so do the groups alone with the tokens after `--`.
-/

namespace ScriptTrace.CommandLine

/-! ### What settings ask for -/

namespace Setting

def format? : Setting → Option Format
  | .format f => some f
  | _ => none

def limit? : Setting → Option Nat
  | .limit n => some n
  | _ => none

end Setting

/-- Nothing but the verbosity is given twice. -/
structure Once (settings : List Setting) : Prop where
  format : (settings.filterMap Setting.format?).length ≤ 1
  limit : (settings.filterMap Setting.limit?).length ≤ 1
  strict : settings.count .strict ≤ 1

/-- The options that have these settings and these tokens. -/
def asked (settings : List Setting) (tokens : List String) : Options where
  format? := settings.findSome? Setting.format?
  limit? := settings.findSome? Setting.limit?
  strict := settings.contains .strict
  tokens := tokens

section
variable {settings : List Setting} {s : Setting} {α : Type} {f : Setting → Option α}

theorem Once.of_append {more : List Setting} (h : Once (settings ++ more)) : Once settings where
  format := ((List.sublist_append_left settings more).filterMap _).length_le.trans h.format
  limit := ((List.sublist_append_left settings more).filterMap _).length_le.trans h.limit
  strict := ((List.sublist_append_left settings more).count_le _).trans h.strict

theorem Once.of_perm {settings' : List Setting} (honce : Once settings)
    (h : settings'.Perm settings) : Once settings' where
  format := (h.filterMap _).length_eq.trans_le honce.format
  limit := (h.filterMap _).length_eq.trans_le honce.limit
  strict := (h.count_eq _).trans_le honce.strict

/-- What is given last and only once was not given before. -/
theorem findSome?_eq_none_of_length_le {a : α} (hs : f s = some a)
    (h : ((settings ++ [s]).filterMap f).length ≤ 1) : settings.findSome? f = none := by
  have hnil : settings.filterMap f = [] := by
    rw [List.filterMap_append, List.length_append, List.filterMap_cons_some hs] at h
    apply List.eq_nil_of_length_eq_zero
    simp only [List.filterMap_nil, List.length_singleton] at h
    omega
  rw [← List.head?_filterMap, hnil, List.head?_nil]

theorem findSome?_eq_of_perm {settings' : List Setting} (h : settings'.Perm settings)
    (honce : (settings.filterMap f).length ≤ 1) : settings'.findSome? f = settings.findSome? f := by
  have hperm : (settings'.filterMap f).Perm (settings.filterMap f) := h.filterMap f
  -- A list of at most one element has no other order.
  have hsame : settings'.filterMap f = settings.filterMap f := by
    generalize settings.filterMap f = given at hperm honce
    cases given with
    | nil => exact hperm.eq_nil
    | cons a given =>
        rw [List.length_cons] at honce
        obtain rfl := List.eq_nil_of_length_eq_zero (show given.length = 0 by omega)
        exact hperm.eq_singleton
  rw [← List.head?_filterMap, hsame, List.head?_filterMap]

theorem asked_perm {settings' : List Setting} (h : settings'.Perm settings) (honce : Once settings)
    (tokens : List String) : asked settings' tokens = asked settings tokens := by
  rw [asked, asked, findSome?_eq_of_perm h honce.format, findSome?_eq_of_perm h honce.limit,
    h.contains_eq]

/-- Taking in one more setting gives what it and those before it ask for. -/
theorem take?_asked (h : Once (settings ++ [s])) (tokens : List String) :
    (asked settings tokens).take? s = some (asked (settings ++ [s]) tokens) := by
  cases s with
  | verbose => simp [asked, Options.take?, Setting.format?, Setting.limit?]
  | strict =>
      have hfirst : .strict ∉ settings := by
        have hcount := h.strict
        rw [List.count_append, List.count_singleton_self] at hcount
        rw [← List.count_eq_zero]
        omega
      simp [asked, Options.take?, Options.setStrict?, Setting.format?, Setting.limit?, hfirst]
  | format f =>
      have hfirst := findSome?_eq_none_of_length_le (f := Setting.format?) rfl h.format
      simp [asked, Options.take?, Setting.format?, Setting.limit?, hfirst]
  | limit n =>
      have hfirst := findSome?_eq_none_of_length_le (f := Setting.limit?) rfl h.limit
      simp [asked, Options.take?, Setting.format?, Setting.limit?, hfirst]

end

/-! ### Interleavings -/

/-- A setting together with the arguments it is written as. -/
structure OptionGroup where
  setting : Setting
  args : List String
  written : Written setting args

/-- The arguments of the last list are the tokens of the first, in order, with the groups among them; the arguments of a group stay together. -/
inductive Interleaves : List String → List OptionGroup → List String → Prop where
  | nil : Interleaves [] [] []
  | token (text : String) {T : List String} {groups : List OptionGroup} {args : List String}
      (h : Interleaves T groups args) : Interleaves (text :: T) groups (text :: args)
  | group (g : OptionGroup) {T : List String} {groups : List OptionGroup} {args : List String}
      (h : Interleaves T groups args) : Interleaves T (g :: groups) (g.args ++ args)

theorem interleaves_groups (groups : List OptionGroup) :
    Interleaves [] groups (groups.flatMap OptionGroup.args) := by
  induction groups with
  | nil => exact .nil
  | cons g groups ih => exact .group g ih

/-- Through an interleaving, the parser adds the settings and the tokens of it to those from before. -/
theorem parseFrom?_interleaves {T : List String} {groups : List OptionGroup} {args : List String}
    (h : Interleaves T groups args) (hT : ∀ text ∈ T, Positional text) (settings : List Setting)
    (honce : Once (settings ++ groups.map OptionGroup.setting)) (tokens rest : List String) :
    (asked settings tokens).parseFrom? (args ++ rest) =
      (asked (settings ++ groups.map OptionGroup.setting) (tokens ++ T)).parseFrom? rest := by
  -- What the parser holds is `asked` of all that it has read, so settings and tokens grow at the end.
  induction h generalizing settings tokens with
  | nil => rw [List.nil_append, List.map_nil, List.append_nil, List.append_nil]
  | @token text T groups args _ ih =>
      rw [List.forall_mem_cons] at hT
      calc (asked settings tokens).parseFrom? (text :: (args ++ rest))
        _ = (asked settings (tokens ++ [text])).parseFrom? (args ++ rest) :=
          Options.parseFrom?_positional _ _ hT.1
        _ = (asked (settings ++ groups.map OptionGroup.setting)
              (tokens ++ [text] ++ T)).parseFrom? rest := ih hT.2 settings honce _
        _ = (asked (settings ++ groups.map OptionGroup.setting)
              (tokens ++ text :: T)).parseFrom? rest := by
          rw [List.append_assoc, List.singleton_append]
  | @group g T groups args _ ih =>
      rw [List.map_cons, List.append_cons] at honce ⊢
      rw [List.append_assoc, Options.parseFrom?_written _ _ g.written, take?_asked honce.of_append]
      exact ih hT _ honce tokens

/-- The order of the groups is forgotten. -/
theorem parse?_interleaves_append {T : List String} {groups groups' : List OptionGroup}
    {args : List String} (h : Interleaves T groups' args) (hT : ∀ text ∈ T, Positional text)
    (hperm : groups'.Perm groups) (honce : Once (groups.map OptionGroup.setting))
    (rest : List String) :
    Options.parse? (args ++ rest) =
      (asked (groups.map OptionGroup.setting) T).parseFrom? rest := by
  have hsettings := hperm.map OptionGroup.setting
  rw [← asked_perm hsettings honce]
  exact parseFrom?_interleaves h hT [] (honce.of_perm hsettings) [] rest

/-- **Options and tokens mix freely.** Take groups of arguments in which nothing but the verbosity is set twice. After them and `--`, any texts at all are the tokens of the script. Positional texts may stand among the groups as well, and the groups in any order: the options are those that the settings and the tokens ask for, also if further tokens come after `--`, and the session is the same as with the tokens behind the groups. -/
theorem session_independent_of_argument_order {groups : List OptionGroup}
    (honce : Once (groups.map OptionGroup.setting)) :
    (∀ T : List String, Options.parse? (groups.flatMap OptionGroup.args ++ "--" :: T) =
      some (asked (groups.map OptionGroup.setting) T)) ∧
    ∀ T : List String, (∀ text ∈ T, Positional text) →
      ∀ groups' : List OptionGroup, groups'.Perm groups → ∀ args, Interleaves T groups' args →
        Options.parse? args = some (asked (groups.map OptionGroup.setting) T) ∧
        (∀ rest : List String, Options.parse? (args ++ "--" :: rest) =
          some (asked (groups.map OptionGroup.setting) (T ++ rest))) ∧
        ∀ input, session args input =
          session (groups.flatMap OptionGroup.args ++ "--" :: T) input := by
  have hlast : ∀ T : List String, Options.parse? (groups.flatMap OptionGroup.args ++ "--" :: T) =
      some (asked (groups.map OptionGroup.setting) T) := by
    intro T
    rw [parse?_interleaves_append (interleaves_groups groups) (List.forall_mem_nil _) .rfl honce,
      Options.parseFrom?_endOfOptions]
    rfl
  refine ⟨hlast, ?_⟩
  intro T hT groups' hperm args hargs
  have hafter := parse?_interleaves_append hargs hT hperm honce
  have hparse : Options.parse? args = some (asked (groups.map OptionGroup.setting) T) := by
    rw [← args.append_nil, hafter, Options.parseFrom?]
  refine ⟨hparse, ?_, ?_⟩
  · intro rest
    rw [hafter, Options.parseFrom?_endOfOptions]
    rfl
  · intro input
    rw [session, session, hparse, hlast]

/-- The groups in reverse among tokens with dashes and an empty one; one group has its value attached, one has it in the next argument and is also a cluster. -/
theorem session_independent_of_argument_order_reversed :
    Options.parse? ["--verbose", "-vvf", "json", "--strict", "--max-script-len=+7",
        "--", "--strict", "-x"] = some ⟨some .json, some 7, true, ["--strict", "-x"]⟩ ∧
    Options.parse? ["5", "--max-script-len=+7", "-3", "--strict", "", "-vvf", "json", "-",
        "--verbose", "OP_ADD"] = some ⟨some .json, some 7, true, ["5", "-3", "", "-", "OP_ADD"]⟩ ∧
    ∀ input, session ["5", "--max-script-len=+7", "-3", "--strict", "", "-vvf", "json", "-",
        "--verbose", "OP_ADD"] input =
      session ["--verbose", "-vvf", "json", "--strict", "--max-script-len=+7",
        "--", "5", "-3", "", "-", "OP_ADD"] input := by
  let verbose : OptionGroup := ⟨.verbose, ["--verbose"], .verbose⟩
  let format : OptionGroup := ⟨.format .json, ["-vvf", "json"], .shortNext 2 (.format .json)⟩
  let strict : OptionGroup := ⟨.strict, ["--strict"], .strict⟩
  let limit : OptionGroup := ⟨.limit 7, ["--max-script-len=+7"],
    .longEquals (.limit (n := ⟨.plus, [7], List.cons_ne_nil _ _⟩) nofun (by decide))⟩
  have honce : Once ([verbose, format, strict, limit].map OptionGroup.setting) :=
    ⟨Nat.le_refl 1, Nat.le_refl 1, Nat.le_refl 1⟩
  have hmixed : Interleaves ["5", "-3", "", "-", "OP_ADD"] [verbose, format, strict, limit].reverse
      ["5", "--max-script-len=+7", "-3", "--strict", "", "-vvf", "json", "-", "--verbose", "OP_ADD"] :=
    .token _ (.group limit (.token _ (.group strict (.token _ (.group format (.token _
      (.group verbose (.token _ .nil))))))))
  have htokens : ∀ text ∈ ["5", "-3", "", "-", "OP_ADD"], Positional text := by
    simp only [← Argument.ofString?_eq_token_iff]
    decide +kernel
  obtain ⟨hlast, horder⟩ := session_independent_of_argument_order honce
  obtain ⟨hparse, _, hsession⟩ := horder _ htokens _ (List.reverse_perm _) _ hmixed
  exact ⟨hlast ["--strict", "-x"], hparse, hsession⟩

end ScriptTrace.CommandLine
