import Mathlib.Data.List.Basic
import ScriptTrace.Verifier

/-!
# The placeholder verifier

Which markers the placeholder verifier takes for signatures and for keys, and which of them belong together. A signature begins with `SIG`; if that goes on with `NATURE`, this is still part of its head, so every marker has one tail at most, and `SIGNATURE7` has the tail `7` and not `NATURE7`. A signature and a key belong together if they have the same tail. The pairs that verify are therefore all the pairs within blocks, one for each tail.
-/

namespace ScriptTrace.Verifier

variable {i s k : Instruction} {x : String}

/-! ### Heads and tails -/

theorem isPrefixOf?_eq_some_iff {head text : String} :
    head.toList.isPrefixOf? text.toList = some x.toList ↔ text = head ++ x := by
  rw [List.isPrefixOf?_eq_some_iff_append_eq, ← String.toList_append, String.toList_inj, eq_comm]

theorem isPrefixOf?_eq_none_iff {head text : String} :
    head.toList.isPrefixOf? text.toList = none ↔ ¬ ∃ y, text = head ++ y := by
  rw [Option.eq_none_iff_forall_ne_some, not_exists]
  constructor
  · intro h y hy
    exact h y.toList (isPrefixOf?_eq_some_iff.mpr hy)
  · intro h rest hrest
    rw [← String.toList_ofList (l := rest)] at hrest
    exact h (String.ofList rest) (isPrefixOf?_eq_some_iff.mp hrest)

/-- The second of two heads counts only where the first one does not fit. -/
theorem tail?_eq_some_iff {first second : String} :
    tail? [first, second] i = some x.toList ↔
      i = .marker (first ++ x) ∨ i = .marker (second ++ x) ∧ ¬ ∃ y, second ++ x = first ++ y := by
  cases i with
  | int n => simp [tail?, Instruction.marker?]
  | op code => simp [tail?, Instruction.marker?]
  | marker text =>
      change ([first, second].findSome? fun head => head.toList.isPrefixOf? text.toList) = _ ↔ _
      rw [List.findSome?_cons, List.findSome?_singleton, Instruction.marker.injEq,
        Instruction.marker.injEq]
      by_cases hfirst : ∃ y, text = first ++ y
      · obtain ⟨y, rfl⟩ := hfirst
        rw [isPrefixOf?_eq_some_iff.mpr rfl]
        constructor
        · intro h
          rw [String.toList_injective (Option.some.inj h)]
          exact .inl rfl
        · rintro (h | ⟨h, hnot⟩)
          · rw [(String.append_right_inj _).mp h]
          · exact absurd ⟨y, h.symm⟩ hnot
      · rw [isPrefixOf?_eq_none_iff.mpr hfirst]
        dsimp only
        rw [isPrefixOf?_eq_some_iff]
        constructor
        · rintro rfl
          exact .inr ⟨rfl, hfirst⟩
        · rintro (h | ⟨h, _⟩)
          · exact absurd ⟨x, h⟩ hfirst
          · exact h

theorem signatureTail?_eq_some_iff :
    signatureTail? i = some x.toList ↔
      i = .marker ("SIGNATURE" ++ x) ∨ i = .marker ("SIG" ++ x) ∧ ¬ ∃ y, x = "NATURE" ++ y := by
  have hhead : ∀ y, "SIG" ++ x = "SIGNATURE" ++ y ↔ x = "NATURE" ++ y := by
    intro y
    rw [show "SIGNATURE" = "SIG" ++ "NATURE" by rfl, String.append_assoc, String.append_right_inj]
  rw [signatureTail?, tail?_eq_some_iff]
  simp only [hhead]

theorem pubkeyTail?_eq_some_iff :
    pubkeyTail? i = some x.toList ↔ i = .marker ("PUBKEY" ++ x) ∨ i = .marker ("PK" ++ x) := by
  have hhead : ¬ ∃ y, "PK" ++ x = "PUBKEY" ++ y := by
    rintro ⟨y, h⟩
    have hlist := congrArg String.toList h
    simp at hlist
  rw [pubkeyTail?, tail?_eq_some_iff, and_iff_left hhead]

/-! ### Signatures and keys -/

theorem isSome_tail?_iff {heads : List String} :
    (tail? heads i).isSome = true ↔ ∃ x : String, tail? heads i = some x.toList := by
  rw [Option.isSome_iff_exists]
  constructor
  · rintro ⟨rest, h⟩
    exact ⟨String.ofList rest, by rw [h, String.toList_ofList]⟩
  · rintro ⟨x, h⟩
    exact ⟨x.toList, h⟩

theorem isSome_signatureTail?_iff :
    (signatureTail? i).isSome = true ↔ ∃ x, i = .marker ("SIG" ++ x) := by
  rw [signatureTail?, isSome_tail?_iff, ← signatureTail?]
  simp only [signatureTail?_eq_some_iff]
  constructor
  · rintro ⟨x, h | ⟨h, _⟩⟩
    · exact ⟨"NATURE" ++ x, by rw [h, ← String.append_assoc]; rfl⟩
    · exact ⟨x, h⟩
  · rintro ⟨x, rfl⟩
    by_cases hx : ∃ y, x = "NATURE" ++ y
    · obtain ⟨y, rfl⟩ := hx
      exact ⟨y, .inl (by rw [← String.append_assoc]; rfl)⟩
    · exact ⟨x, .inr ⟨rfl, hx⟩⟩

theorem isSome_pubkeyTail?_iff :
    (pubkeyTail? i).isSome = true ↔ ∃ x, i = .marker ("PUBKEY" ++ x) ∨ i = .marker ("PK" ++ x) := by
  rw [pubkeyTail?, isSome_tail?_iff, ← pubkeyTail?]
  simp only [pubkeyTail?_eq_some_iff]

/-- The first letter tells signatures from keys. -/
theorem pubkeyTail?_of_signatureTail? (h : (signatureTail? i).isSome = true) :
    (pubkeyTail? i).isSome = false := by
  obtain ⟨x, rfl⟩ := isSome_signatureTail?_iff.mp h
  rw [Bool.eq_false_iff, ne_eq, isSome_pubkeyTail?_iff]
  rintro ⟨y, hy | hy⟩
  · have hlist := congrArg String.toList (Instruction.marker.inj hy)
    simp at hlist
  · have hlist := congrArg String.toList (Instruction.marker.inj hy)
    simp at hlist

theorem classify_placeholder_eq_signature_iff :
    placeholder.classify i = .signature ↔ ∃ x, i = .marker ("SIG" ++ x) := by
  rw [← isSome_signatureTail?_iff]
  dsimp only [placeholder]
  cases signatureTail? i with
  | some x => simp
  | none => cases pubkeyTail? i <;> simp

theorem classify_placeholder_eq_pubkey_iff :
    placeholder.classify i = .pubkey ↔ ∃ x, i = .marker ("PUBKEY" ++ x) ∨ i = .marker ("PK" ++ x) := by
  rw [← isSome_pubkeyTail?_iff]
  dsimp only [placeholder]
  cases hsignature : (signatureTail? i).isSome with
  | true => simp [pubkeyTail?_of_signatureTail? hsignature]
  | false => cases pubkeyTail? i <;> simp

theorem verify_placeholder_iff :
    placeholder.verify s k = true ↔
      ∃ x : String, signatureTail? s = some x.toList ∧ pubkeyTail? k = some x.toList := by
  dsimp only [placeholder]
  cases signatureTail? s with
  | none => simp
  | some x =>
      cases pubkeyTail? k with
      | none => simp
      | some y =>
          rw [beq_iff_eq]
          constructor
          · rintro rfl
            exact ⟨String.ofList x, by rw [String.toList_ofList], by rw [String.toList_ofList]⟩
          · rintro ⟨z, hx, hy⟩
            exact (Option.some.inj hx).trans (Option.some.inj hy).symm

theorem classify_of_verify_placeholder (h : placeholder.verify s k = true) :
    placeholder.classify s = .signature ∧ placeholder.classify k = .pubkey := by
  obtain ⟨x, hs, hk⟩ := verify_placeholder_iff.mp h
  rw [classify_placeholder_eq_signature_iff, classify_placeholder_eq_pubkey_iff,
    ← isSome_signatureTail?_iff, ← isSome_pubkeyTail?_iff, hs, hk]
  exact ⟨rfl, rfl⟩

/-- Two keys of one signature have its tail, and so does every signature of either. -/
theorem verify_placeholder_of_verify {s' k' : Instruction} (h : placeholder.verify s k = true)
    (hkey : placeholder.verify s k' = true) (hsignature : placeholder.verify s' k = true) :
    placeholder.verify s' k' = true := by
  rw [verify_placeholder_iff] at h hkey hsignature ⊢
  obtain ⟨x, hs, hk⟩ := h
  obtain ⟨y, hs', hk'⟩ := hkey
  obtain ⟨z, hs'', hk''⟩ := hsignature
  obtain rfl : x = y := String.toList_injective (Option.some.inj (hs.symm.trans hs'))
  obtain rfl : x = z := String.toList_injective (Option.some.inj (hk.symm.trans hk''))
  exact ⟨x, hs'', hk'⟩

/-- **The placeholder verifier.** It accepts a signature and a key exactly if these are markers with the same tail, where a head that can be `SIGNATURE` is not read as `SIG`. What it takes for a signature, and what for a key, is likewise a matter of the head; the two sides of an accepted pair are taken for one and the other, and nothing is ever both. Whenever three of the pairs that two signatures make with two keys are accepted, so is the fourth. -/
theorem placeholder_exact :
    (∀ s k : Instruction, placeholder.verify s k = true ↔ ∃ x : String,
      (s = .marker ("SIGNATURE" ++ x) ∨ s = .marker ("SIG" ++ x) ∧ ¬ ∃ y, x = "NATURE" ++ y) ∧
      (k = .marker ("PUBKEY" ++ x) ∨ k = .marker ("PK" ++ x))) ∧
    (∀ i : Instruction,
      (placeholder.classify i = .signature ↔ ∃ x, i = .marker ("SIG" ++ x)) ∧
      (placeholder.classify i = .pubkey ↔
        ∃ x, i = .marker ("PUBKEY" ++ x) ∨ i = .marker ("PK" ++ x))) ∧
    (∀ s k : Instruction, placeholder.verify s k = true →
      placeholder.classify s = .signature ∧ placeholder.classify k = .pubkey) ∧
    (∀ i : Instruction, ¬ (placeholder.isSignature i = true ∧ placeholder.isPubkey i = true) ∧
      ¬ ((signatureTail? i).isSome = true ∧ (pubkeyTail? i).isSome = true)) ∧
    (∀ s k s' k' : Instruction, placeholder.verify s k = true → placeholder.verify s k' = true →
      placeholder.verify s' k = true → placeholder.verify s' k' = true) := by
  refine ⟨fun s k => ?_, fun i => ?_, fun s k => classify_of_verify_placeholder, fun i => ⟨?_, ?_⟩,
    fun s k s' k' => verify_placeholder_of_verify⟩
  · rw [verify_placeholder_iff]
    simp only [signatureTail?_eq_some_iff, pubkeyTail?_eq_some_iff]
  · exact ⟨classify_placeholder_eq_signature_iff, classify_placeholder_eq_pubkey_iff⟩
  · rintro ⟨hsignature, hpubkey⟩
    cases (beq_iff_eq.mp hsignature).symm.trans (beq_iff_eq.mp hpubkey)
  · rintro ⟨hsignature, hpubkey⟩
    rw [pubkeyTail?_of_signatureTail? hsignature] at hpubkey
    cases hpubkey

/-- Both spellings of a signature belong to both spellings of its key, with a text that is not ASCII for a tail. -/
theorem placeholder_exact_spellings :
    placeholder.verify (.marker "SIGNATURE→7") (.marker "PUBKEY→7") = true ∧
      placeholder.classify (.marker "SIG→7") = .signature := by
  obtain ⟨_, _, hclassify, _, hfourth⟩ := placeholder_exact
  constructor
  · exact hfourth (.marker "SIG→7") (.marker "PK→7") _ _ (by decide) (by decide) (by decide)
  · exact (hclassify _ (.marker "PK→7") (by decide)).1

end ScriptTrace.Verifier
