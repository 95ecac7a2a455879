import Mathlib.Data.List.Nodup
import ScriptTrace.Effect.Signature

/-!
# Items and pairs counted once

A multiple check tries each signature and each key once, however often they occur on the stack. What is left of a list when repetitions are dropped is a matter of equality alone, so the facts about it are for lists of any type; each goes by the first element and the list without its further occurrences. From them follows what the pairs of a check are: those of a given signature and a given key that verify, none of them twice.
-/

namespace ScriptTrace

section

variable {α β : Type} [BEq α]

/-- What holds of a list as soon as it holds without further occurrences of the first element holds of all lists. -/
theorem eraseDups_induction {P : List α → Prop} (nil : P [])
    (cons : ∀ x l, P (l.filter fun b => !b == x) → P (x :: l)) (l : List α) : P l := by
  induction hn : l.length using Nat.strongRecOn generalizing l with
  | ind n ih =>
  cases l with
  | nil => exact nil
  | cons x l =>
      have hlength : (l.filter fun b => !b == x).length < n := by
        have hle := List.length_filter_le (fun b => !b == x) l
        rw [List.length_cons] at hn
        omega
      exact cons x l (ih _ hlength _ rfl)

variable [LawfulBEq α] [BEq β] [LawfulBEq β]

theorem nodup_eraseDups (l : List α) : l.eraseDups.Nodup := by
  induction l using eraseDups_induction with
  | nil => exact List.nodup_nil
  | cons x l ih =>
      rw [List.eraseDups_cons, List.nodup_cons]
      refine ⟨?_, ih⟩
      simp

/-- A map that keeps the members of a list apart keeps their duplicates. -/
theorem eraseDups_map {f : α → β} {l : List α} (h : ∀ a ∈ l, ∀ b ∈ l, f a = f b → a = b) :
    (l.map f).eraseDups = l.eraseDups.map f := by
  induction l using eraseDups_induction with
  | nil => rfl
  | cons x l ih =>
      have hfilter : (l.map f).filter (fun b => !b == f x) = (l.filter fun b => !b == x).map f := by
        rw [List.filter_map]
        congr 1
        refine List.filter_congr fun b hb => ?_
        have hbx : f b = f x ↔ b = x :=
          ⟨h b (List.mem_cons_of_mem x hb) x List.mem_cons_self, congrArg f⟩
        rw [Function.comp_apply, Bool.not_inj_iff, Bool.eq_iff_iff, beq_iff_eq, beq_iff_eq, hbx]
      have hrest := ih fun a ha b hb => h a (List.mem_cons_of_mem x (List.mem_of_mem_filter ha))
        b (List.mem_cons_of_mem x (List.mem_of_mem_filter hb))
      rw [List.map_cons, List.eraseDups_cons, List.eraseDups_cons, hfilter, hrest, List.map_cons]

theorem eraseDups_replicate_succ (n : Nat) (x : α) :
    (List.replicate (n + 1) x).eraseDups = [x] := by
  rw [List.replicate_succ, List.eraseDups_cons, List.filter_replicate, if_neg (by simp)]
  rfl

end

namespace Effect

variable {v : Verifier} {signatures pubkeys : List Instruction}

theorem mem_verifiedPairs {pair : Instruction × Instruction} :
    pair ∈ verifiedPairs v signatures pubkeys ↔
      pair.1 ∈ signatures ∧ pair.2 ∈ pubkeys ∧ v.verify pair.1 pair.2 = true := by
  obtain ⟨s, k⟩ := pair
  simp only [verifiedPairs, List.mem_flatMap, List.mem_map, List.mem_filter, List.mem_eraseDups,
    Prod.mk.injEq]
  constructor
  · rintro ⟨s', hs, k', ⟨hk, hverify⟩, rfl, rfl⟩
    exact ⟨hs, hk, hverify⟩
  · rintro ⟨hs, hk, hverify⟩
    exact ⟨s, hs, k, ⟨hk, hverify⟩, rfl, rfl⟩

theorem nodup_verifiedPairs : (verifiedPairs v signatures pubkeys).Nodup := by
  rw [verifiedPairs, List.nodup_flatMap]
  constructor
  · intro s _
    apply List.Nodup.map
    · intro k k' h
      exact (Prod.mk.inj h).2
    · exact (nodup_eraseDups pubkeys).filter _
  · refine (nodup_eraseDups signatures).imp fun {s s'} hne => ?_
    intro pair hpair hpair'
    obtain ⟨k, _, rfl⟩ := List.mem_map.mp hpair
    obtain ⟨k', _, h⟩ := List.mem_map.mp hpair'
    exact hne (Prod.mk.inj h).1.symm

end Effect

end ScriptTrace
