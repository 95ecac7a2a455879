import Mathlib.Data.Finset.Prod
import ScriptTrace.Proofs.Multisig.Shape
import ScriptTrace.Proofs.Trace.Composition

/-!
# Multiple checks count a set

The check goes through two lists, but what it counts is the set `MultisigOperands.pairs`, and this set depends on no more than which values occur among the keys and which among the signatures. So neither the order of the items nor repetitions matter, and more keys can only add pairs.

The check compares this number of pairs with the number of signatures. If no signature belongs to two keys, then a pair is known by its signature, and there are as many pairs as there are different signatures that belong to a key at hand. The check passes then only if the signatures are all different and all of them good. Otherwise one signature may stand in for another.
-/

namespace ScriptTrace

open Stack (ofList)

namespace MultisigOperands

variable {v : Verifier} {o o' : MultisigOperands v}

/-! ### The set of pairs -/

theorem pairs_congr (hpubkeys : o.pubkeys.toFinset = o'.pubkeys.toFinset)
    (hsignatures : o.signatures.toFinset = o'.signatures.toFinset) : o.pairs = o'.pairs := by
  rw [pairs, pairs, hpubkeys, hsignatures]

theorem pairs_subset (hpubkeys : o.pubkeys ⊆ o'.pubkeys) (hsignatures : o.signatures ⊆ o'.signatures) :
    o.pairs ⊆ o'.pairs := by
  intro pair hpair
  rw [mem_pairs] at hpair ⊢
  exact ⟨hsignatures hpair.1, hpubkeys hpair.2.1, hpair.2.2⟩

theorem card_pairs_le (o : MultisigOperands v) :
    o.pairs.card ≤ o.signatures.toFinset.card * o.pubkeys.toFinset.card := by
  rw [← Finset.card_product]
  exact Finset.card_filter_le _ _

/-! ### What the opcodes make of it -/

/-- The check is carried out and reports so many pairs; the flag that it leaves tells whether it passed. -/
def Concludes (o : MultisigOperands v) (count : Nat) (passed : Bool) : Prop :=
  Opcode.checkMultisig.execute v (ofList o.stack) =
    .ok (.tested .checkMultisig (.multisig count o.signatures.length o.pubkeys.length) passed false)
      (ofList (.ofBool passed :: o.rest))

theorem concludes_card (o : MultisigOperands v) :
    o.Concludes o.pairs.card (decide (o.signatures.length ≤ o.pairs.card)) := by
  rw [Concludes, Opcode.execute_multisigOperands rfl, Effect.conclude, check, verified_eq_card,
    passes_eq_decide_card]
  simp

/-- The outcome and its report, whether the check is enforced or not, are a matter of the set, of the two counts and of the items below. -/
theorem execute_congr {op : Opcode} {enforced : Bool}
    (hop : op.operation? = some (.checkMultisig enforced)) (hpairs : o.pairs = o'.pairs)
    (hrequired : o.signatures.length = o'.signatures.length)
    (hcount : o.pubkeys.length = o'.pubkeys.length) (hrest : o.rest = o'.rest) :
    op.execute v (ofList o.stack) = op.execute v (ofList o'.stack) := by
  have hcheck : o.check = o'.check := by
    rw [check, check, verified_eq_card, verified_eq_card, hpairs, hrequired, hcount]
  have hpasses : o.passes = o'.passes := by
    rw [passes_eq_decide_card, passes_eq_decide_card, hpairs, hrequired]
  rw [Opcode.execute_multisigOperands hop, Opcode.execute_multisigOperands hop, hcheck, hpasses, hrest]

/-- Whatever scripts lead to the two stacks, an opcode that checks them and all that comes after it leave the same steps, messages included, and come to the same verdict. -/
def ReplaysAs (o o' : MultisigOperands v) : Prop :=
  ∀ op, op = .checkMultisig ∨ op = .checkMultisigVerify → ∀ p p' : List Instruction,
    ¬ (simulate v p).Fails → (simulate v p).finalStack = o.stack →
    ¬ (simulate v p').Fails → (simulate v p').finalStack = o'.stack → ∀ q : List Instruction,
    (simulate v (p ++ .op op :: q)).steps.drop (simulate v p).steps.length =
        (simulate v (p' ++ .op op :: q)).steps.drop (simulate v p').steps.length ∧
      (simulate v (p ++ .op op :: q)).valid = (simulate v (p' ++ .op op :: q)).valid

theorem replaysAs_of_pairs_eq (hpairs : o.pairs = o'.pairs)
    (hrequired : o.signatures.length = o'.signatures.length)
    (hcount : o.pubkeys.length = o'.pubkeys.length) (hrest : o.rest = o'.rest) :
    o.ReplaysAs o' := by
  intro op hop p p' hp hstack hp' hstack'
  have hoperation : ∃ enforced, op.operation? = some (.checkMultisig enforced) := by
    rcases hop with rfl | rfl
    · exact ⟨false, rfl⟩
    · exact ⟨true, rfl⟩
  obtain ⟨enforced, hoperation⟩ := hoperation
  apply replay_of_execute_eq hp hp'
  rw [hstack, hstack', Instruction.execute_op]
  exact execute_congr hoperation hpairs hrequired hcount hrest

end MultisigOperands

/-- **Multiple checks depend on sets and are monotone in the keys.** Take two stacks that ask for the same number of signatures and have the same items below. The check reports on each how many pairs verify, as a set, and these are no more than there are pairs of values. If the same values occur among the keys and among the signatures, both numbers and both flags are the same; with as many keys on both, as after any reordering, so is all that is recorded. If the values of one stack occur in the other, there are no fewer pairs there, and what passed still passes. -/
theorem checkMultisig_counts_sets {v : Verifier} (o o' : MultisigOperands v)
    (hrequired : o.signatures.length = o'.signatures.length) (hrest : o.rest = o'.rest) :
    ∃ count passed count' passed', o.Concludes count passed ∧ o'.Concludes count' passed' ∧
      (count = o.pairs.card ∧ count ≤ o.signatures.toFinset.card * o.pubkeys.toFinset.card) ∧
      (o.pubkeys.toFinset = o'.pubkeys.toFinset → o.signatures.toFinset = o'.signatures.toFinset →
        count = count' ∧ passed = passed' ∧
          (o.pubkeys.length = o'.pubkeys.length → o.ReplaysAs o')) ∧
      (o.pubkeys.Perm o'.pubkeys → o.signatures.Perm o'.signatures → o.ReplaysAs o') ∧
      (o.pubkeys ⊆ o'.pubkeys → o.signatures ⊆ o'.signatures →
        count ≤ count' ∧ (passed = true → passed' = true)) := by
  refine ⟨_, _, _, _, o.concludes_card, o'.concludes_card, ⟨rfl, o.card_pairs_le⟩, ?_, ?_, ?_⟩
  · intro hpubkeys hsignatures
    have hpairs := MultisigOperands.pairs_congr hpubkeys hsignatures
    rw [hpairs, hrequired]
    refine ⟨rfl, rfl, ?_⟩
    intro hcount
    exact MultisigOperands.replaysAs_of_pairs_eq hpairs hrequired hcount hrest
  · intro hpubkeys hsignatures
    have hpairs := MultisigOperands.pairs_congr (List.toFinset_eq_of_perm _ _ hpubkeys)
      (List.toFinset_eq_of_perm _ _ hsignatures)
    exact MultisigOperands.replaysAs_of_pairs_eq hpairs hrequired hpubkeys.length_eq hrest
  · intro hpubkeys hsignatures
    have hcard := Finset.card_le_card (MultisigOperands.pairs_subset hpubkeys hsignatures)
    refine ⟨hcard, ?_⟩
    simp only [decide_eq_true_eq]
    omega

/-- Keys in another order, with another one of them repeated, make the same two pairs. -/
theorem checkMultisig_counts_sets_reordered :
    (simulate .placeholder [.int 9, .marker "SIG2", .marker "SIG1", .int 2, .marker "PK2",
        .marker "PK1", .marker "PK1", .op .num3, .op .checkMultisig, .op .add]).steps.drop 9 =
      (simulate .placeholder [.int 9, .marker "SIG1", .marker "SIG2", .op .num2, .marker "PK2",
        .marker "PK1", .marker "PK2", .int 3, .op .checkMultisig, .op .add]).steps.drop 9 := by
  let o : MultisigOperands .placeholder := ⟨.op .num3, [.marker "PK1", .marker "PK1", .marker "PK2"],
    .int 2, [.marker "SIG1", .marker "SIG2"], [.int 9], rfl, rfl, by decide +kernel,
    by decide +kernel, by decide⟩
  let o' : MultisigOperands .placeholder := ⟨.int 3, [.marker "PK2", .marker "PK1", .marker "PK2"],
    .op .num2, [.marker "SIG2", .marker "SIG1"], [.int 9], rfl, rfl, by decide +kernel,
    by decide +kernel, by decide⟩
  obtain ⟨_, _, _, _, _, _, _, hsame, _⟩ := checkMultisig_counts_sets o o' rfl rfl
  have hreplays := (hsame (by decide +kernel) (by decide +kernel)).2.2 rfl
  exact (hreplays .checkMultisig (.inl rfl) [.int 9, .marker "SIG2", .marker "SIG1", .int 2,
    .marker "PK2", .marker "PK1", .marker "PK1", .op .num3] [.int 9, .marker "SIG1", .marker "SIG2", .op .num2,
    .marker "PK2", .marker "PK1", .marker "PK2", .int 3] (by rw [simulate_fails_iff]; decide +kernel)
    (by decide +kernel) (by rw [simulate_fails_iff]; decide +kernel) (by decide +kernel) [.op .add]).1

/-! ### One key for each signature -/

/-- No signature belongs to two keys. -/
def Verifier.OneKeyPerSignature (v : Verifier) : Prop :=
  ∀ signature key key', v.isSignature signature = true → v.isPubkey key = true →
    v.isPubkey key' = true → v.verify signature key = true → v.verify signature key' = true →
    key = key'

/-- A table gives no signature two keys if it lists no signature twice. -/
theorem Verifier.oneKeyPerSignature_ofTables (signatures pubkeys : List Instruction)
    {pairs : List (Instruction × Instruction)} (hnodup : (pairs.map Prod.fst).Nodup) :
    (ofTables signatures pubkeys pairs).OneKeyPerSignature := by
  intro signature key key' _ _ _ hkey hkey'
  have hmem : (signature, key) ∈ pairs := List.contains_iff_mem.mp hkey
  have hmem' : (signature, key') ∈ pairs := List.contains_iff_mem.mp hkey'
  have heq := List.inj_on_of_nodup_map hnodup hmem hmem' rfl
  exact congrArg Prod.snd heq

namespace MultisigOperands

variable {v : Verifier}

/-- The different signatures that belong to one of the keys. -/
def verifying (o : MultisigOperands v) : Finset Instruction :=
  o.signatures.toFinset.filter fun signature => ∃ key ∈ o.pubkeys, v.verify signature key = true

theorem image_fst_pairs (o : MultisigOperands v) : o.pairs.image Prod.fst = o.verifying := by
  ext signature
  simp only [verifying, Finset.mem_image, mem_pairs, Finset.mem_filter, List.mem_toFinset]
  constructor
  · rintro ⟨pair, ⟨hsignature, hkey, hverify⟩, rfl⟩
    exact ⟨hsignature, pair.2, hkey, hverify⟩
  · rintro ⟨hsignature, key, hkey, hverify⟩
    exact ⟨(signature, key), ⟨hsignature, hkey, hverify⟩, rfl⟩

/-- Pairs are told apart by their signatures. -/
theorem injOn_fst_pairs (hone : v.OneKeyPerSignature) (o : MultisigOperands v) :
    Set.InjOn Prod.fst (o.pairs : Set (Instruction × Instruction)) := by
  intro pair hpair pair' hpair' heq
  obtain ⟨hsignature, hkey, hverify⟩ := mem_pairs.mp hpair
  obtain ⟨_, hkey', hverify'⟩ := mem_pairs.mp hpair'
  rw [← heq] at hverify'
  exact Prod.ext heq (hone pair.1 pair.2 pair'.2 (o.isSignature_of_mem _ hsignature)
    (o.isPubkey_of_mem _ hkey) (o.isPubkey_of_mem _ hkey') hverify hverify')

theorem card_pairs_eq_card_verifying (hone : v.OneKeyPerSignature) (o : MultisigOperands v) :
    o.pairs.card = o.verifying.card := by
  rw [← image_fst_pairs, Finset.card_image_of_injOn (o.injOn_fst_pairs hone)]

/-- There can only be as many different good signatures as signatures if all of them are different and good. -/
theorem length_le_card_verifying_iff (o : MultisigOperands v) :
    o.signatures.length ≤ o.verifying.card ↔ o.signatures.Nodup ∧
      ∀ signature ∈ o.signatures, ∃ key ∈ o.pubkeys, v.verify signature key = true := by
  have hverifying : o.verifying.card ≤ o.signatures.toFinset.card := Finset.card_filter_le _ _
  have hdistinct : o.signatures.toFinset.card ≤ o.signatures.length := List.toFinset_card_le _
  -- The three numbers can only go up again if both bounds are equalities.
  calc o.signatures.length ≤ o.verifying.card
      ↔ o.signatures.toFinset.card = o.signatures.length ∧
          o.verifying.card = o.signatures.toFinset.card := by omega
    _ ↔ _ := by
      rw [verifying, Finset.card_filter_eq_iff]
      simp only [List.mem_toFinset]
      exact and_congr_left' Multiset.toFinset_card_eq_card_iff_nodup

end MultisigOperands

/-- **With one key for each signature, a multiple check means what it says.** If no signature belongs to two keys, the flag is one if and only if the signatures are all different and each of them belongs to one of the keys, and it is zero otherwise. Where the check is enforced, it succeeds under the same condition. -/
theorem checkMultisig_flag_iff_distinct {v : Verifier} (hone : v.OneKeyPerSignature)
    (o : MultisigOperands v) :
    ∃ report flag, Opcode.checkMultisig.execute v (ofList o.stack) =
        .ok report (ofList (.int flag :: o.rest)) ∧
      (flag = 1 ∨ flag = 0) ∧
      (flag = 1 ↔ o.signatures.Nodup ∧
        ∀ signature ∈ o.signatures, ∃ key ∈ o.pubkeys, v.verify signature key = true) ∧
      (flag = 1 ↔ ∃ report' t, Opcode.checkMultisigVerify.execute v (ofList o.stack) =
        .ok report' t) := by
  refine ⟨_, _, o.concludes_card, ?_⟩
  rw [← o.length_le_card_verifying_iff, ← o.card_pairs_eq_card_verifying hone,
    Opcode.execute_multisigOperands rfl, Effect.conclude, o.passes_eq_decide_card]
  by_cases h : o.signatures.length ≤ o.pairs.card
  · simp [h]
  · simp [h]

/-- Two signatures with a key each pass in any order, and one of them given twice does not. -/
theorem checkMultisig_flag_iff_distinct_tables :
    (∃ report, Opcode.checkMultisig.execute
        (.ofTables [.marker "a", .marker "b"] [.int 1, .int 2] [(.marker "a", .int 1), (.marker "b", .int 2)])
        (ofList [.op .num2, .int 1, .int 2, .op .num2, .marker "b", .marker "a", .int 9]) =
      .ok report (ofList [.int 1, .int 9])) ∧
    ∃ report, Opcode.checkMultisig.execute
        (.ofTables [.marker "a", .marker "b"] [.int 1, .int 2] [(.marker "a", .int 1), (.marker "b", .int 2)])
        (ofList [.op .num2, .int 1, .int 2, .op .num2, .marker "a", .marker "a", .int 9]) =
      .ok report (ofList [.int 0, .int 9]) := by
  let v : Verifier := .ofTables [.marker "a", .marker "b"] [.int 1, .int 2]
    [(.marker "a", .int 1), (.marker "b", .int 2)]
  have hone : v.OneKeyPerSignature := Verifier.oneKeyPerSignature_ofTables _ _ (by decide)
  constructor
  · let o : MultisigOperands v := ⟨.op .num2, [.int 1, .int 2], .op .num2,
      [.marker "b", .marker "a"], [.int 9], rfl, rfl, by decide +kernel, by decide +kernel, by decide⟩
    obtain ⟨report, flag, hexecute, _, hflag, _⟩ := checkMultisig_flag_iff_distinct hone o
    obtain rfl := hflag.mpr (by decide +kernel)
    exact ⟨report, hexecute⟩
  · let o : MultisigOperands v := ⟨.op .num2, [.int 1, .int 2], .op .num2,
      [.marker "a", .marker "a"], [.int 9], rfl, rfl, by decide +kernel, by decide +kernel, by decide⟩
    obtain ⟨report, flag, hexecute, hbinary, hflag, _⟩ := checkMultisig_flag_iff_distinct hone o
    obtain rfl := hbinary.resolve_left (mt hflag.mp (by decide +kernel))
    exact ⟨report, hexecute⟩

/-- The placeholder verifier has two keys for a signature, and so one signature can pass for two. -/
example : (simulate .placeholder [.marker "SIG1", .marker "SIG1", .int 2, .marker "PK1",
    .marker "PUBKEY1", .int 2, .op .checkMultisig]).finalStack = [.int 1] := by
  decide +kernel

end ScriptTrace
