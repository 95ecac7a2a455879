import Mathlib.Data.Finset.Prod
import ScriptTrace.Proofs.Effect.Pairs
import ScriptTrace.Proofs.Leftover

/-!
# Multiple checks decide the shape of the stack

A multiple check reads a count, as many keys, a second count, as many signatures, and at each of these points it may give up. What it accepts can still be said in one sentence: it accepts the stacks that are the operands of some `MultisigOperands`, with anything below. On these its flag tells whether the distinct pairs that verify, as a set, are at least as many as the signatures. On all others it fails, and the kind of failure says whether the stack was empty, whether something that is not a number stood where a count is read, or whether the counts and the items do not fit together. A failure leaves the lower part of the stack as it was.
-/

namespace ScriptTrace

open Stack (ofList)

/-! ### Distinct pairs -/

namespace MultisigOperands

variable {v : Verifier}

/-- The pairs of a signature and a key that verify, as a set of pairs of values. -/
def pairs (o : MultisigOperands v) : Finset (Instruction × Instruction) :=
  (o.signatures.toFinset ×ˢ o.pubkeys.toFinset).filter fun pair => v.verify pair.1 pair.2

theorem mem_pairs {o : MultisigOperands v} {pair : Instruction × Instruction} :
    pair ∈ o.pairs ↔
      pair.1 ∈ o.signatures ∧ pair.2 ∈ o.pubkeys ∧ v.verify pair.1 pair.2 = true := by
  simp only [pairs, Finset.mem_filter, Finset.mem_product, List.mem_toFinset, and_assoc]

/-- The check counts a set. -/
theorem verified_eq_card (o : MultisigOperands v) : o.verified = o.pairs.card := by
  have hpairs : (Effect.verifiedPairs v o.signatures o.pubkeys).toFinset = o.pairs := by
    ext pair
    rw [List.mem_toFinset, Effect.mem_verifiedPairs, mem_pairs]
  rw [verified, ← hpairs, List.toFinset_card_of_nodup Effect.nodup_verifiedPairs]

theorem passes_eq_decide_card (o : MultisigOperands v) :
    o.passes = decide (o.signatures.length ≤ o.pairs.card) := by
  rw [passes, verified_eq_card]

end MultisigOperands

/-! ### Failures -/

/-- The items that a multiple check reads as counts: the one on top, and the one below the keys, if it gets there. -/
inductive ReadAsCount (v : Verifier) : List Instruction → Instruction → Prop where
  | pubkeys (count : Instruction) (rest : List Instruction) : ReadAsCount v (count :: rest) count
  | signatures {pubkeyCount : Instruction} {pubkeys : List Instruction} (count : Instruction)
      (rest : List Instruction) (hcount : pubkeyCount.value? = some (pubkeys.length : Int))
      (hpubkeys : ∀ key ∈ pubkeys, v.isPubkey key = true) :
      ReadAsCount v (pubkeyCount :: (pubkeys ++ count :: rest)) count

/-- How a multiple check fails on a stack that it does not accept. -/
inductive MultisigFailure (v : Verifier) (op : Opcode) : List Instruction → Failure → Prop where
  | empty : MultisigFailure v op [] (.stackUnderflow op)
  | notNumeric {s : List Instruction} {count : Instruction} (hread : ReadAsCount v s count)
      (hcount : count.value? = none) : MultisigFailure v op s (.notNumeric op count)
  /-- All that is read as a count is a number, and yet the items do not fit. -/
  | misfit {s : List Instruction} (fault : MultisigFault) (hne : s ≠ [])
      (hcounts : ∀ count, ReadAsCount v s count → count.value? ≠ none) :
      MultisigFailure v op s (.multisig op fault)

section

variable {v : Verifier} {op : Opcode} {count pubkeyCount : Instruction}
  {l pubkeys rest : List Instruction}

/-- Of the items below the top one at most one is read as a count, and the count on top and the items after it say which. -/
theorem ReadAsCount.of_cons (h : ReadAsCount v (pubkeyCount :: l) count) :
    count = pubkeyCount ∨ ∃ pubkeys rest, l = pubkeys ++ count :: rest ∧
      pubkeyCount.value? = some (pubkeys.length : Int) ∧ ∀ key ∈ pubkeys, v.isPubkey key = true := by
  cases h with
  | pubkeys => exact .inl rfl
  | signatures count rest hcount hpubkeys => exact .inr ⟨_, rest, rfl, hcount, hpubkeys⟩

/-- Once the keys are known, the second count is the item after them. -/
theorem ReadAsCount.of_append (hcount : pubkeyCount.value? = some (pubkeys.length : Int))
    (h : ReadAsCount v (pubkeyCount :: (pubkeys ++ rest)) count) :
    count = pubkeyCount ∨ rest.head? = some count := by
  rcases h.of_cons with heq | ⟨pubkeys', rest', happend, hcount', _⟩
  · exact .inl heq
  · have hlength : pubkeys.length = pubkeys'.length := by
      rw [hcount, Option.some.injEq] at hcount'
      omega
    obtain ⟨_, rfl⟩ := List.append_inj happend hlength
    exact .inr rfl

namespace Effect

open StackM

theorem popAccepted_fails (accept : Instruction → Bool) (shortfall : Nat → MultisigFault)
    {received n : Nat} (hn : n ≤ l.length) {failure : Failure} {t : Stack}
    (h : popAccepted op accept shortfall received n (ofList l) = .error failure t) :
    (∃ fault, failure = .multisig op fault) ∧ ∃ item ∈ l.take n, accept item = false := by
  rw [popAccepted_listed op accept shortfall hn] at h
  cases hfind : (l.take n).findIdx? (fun x => !accept x) with
  | none =>
      rw [hfind] at h
      cases h
  | some j =>
      rw [hfind] at h
      cases h
      refine ⟨⟨_, rfl⟩, ?_⟩
      obtain ⟨hj, hitem, _⟩ := List.findIdx?_eq_some_iff_getElem.mp hfind
      exact ⟨_, List.getElem_mem hj, by simpa using hitem⟩

/-- The keys: a count that is no number, a count out of range, or an item that is no key. -/
theorem popPubkeys_fails {failure : Failure} {t : Stack}
    (h : popPubkeys v op (ofList l) = .error failure t) : MultisigFailure v op l failure := by
  cases l with
  | nil =>
      cases h
      exact .empty
  | cons x l =>
      simp only [popPubkeys, bind_apply] at h
      cases hx : x.value? with
      | none =>
          rw [popNumber_of_none hx] at h
          cases h
          exact .notNumeric (.pubkeys x l) hx
      | some n =>
          simp only [popNumber_of_some hx, size_listed] at h
          -- A second count is only read below as many keys as the first one says.
          suffices hfault : (∃ fault, failure = .multisig op fault) ∧ ∀ pubkeys rest, l = pubkeys ++ rest →
              n = pubkeys.length → ¬ ∀ key ∈ pubkeys, v.isPubkey key = true by
            obtain ⟨⟨fault, rfl⟩, hkeys⟩ := hfault
            refine .misfit fault (List.cons_ne_nil x l) fun count hread => ?_
            rcases hread.of_cons with rfl | ⟨pubkeys, rest, rfl, hcount, hpubkeys⟩
            · rw [hx]
              exact Option.some_ne_none _
            · rw [hx, Option.some.injEq] at hcount
              exact absurd hpubkeys (hkeys pubkeys _ rfl hcount)
          by_cases hsize : 0 ≤ n ∧ n ≤ l.length
          · rw [if_pos hsize] at h
            obtain ⟨hfault, item, hitem, hnot⟩ := popAccepted_fails _ _ (by omega) h
            refine ⟨hfault, ?_⟩
            rintro pubkeys rest rfl hn hpubkeys
            rw [hn, Int.toNat_natCast, List.take_left] at hitem
            rw [hpubkeys item hitem] at hnot
            cases hnot
          · rw [if_neg hsize] at h
            cases h
            refine ⟨⟨_, rfl⟩, ?_⟩
            rintro pubkeys rest rfl hn _
            rw [List.length_append] at hsize
            omega

/-- The signatures likewise, and there may be no count at all. -/
theorem popSignatures_fails {n : Nat} {failure : Failure} {t : Stack}
    (h : popSignatures v op n (ofList rest) = .error failure t) :
    (∃ count, rest.head? = some count ∧ count.value? = none ∧ failure = .notNumeric op count) ∨
      (∃ fault, failure = .multisig op fault) ∧
        ∀ count, rest.head? = some count → count.value? ≠ none := by
  cases rest with
  | nil =>
      cases h
      exact .inr ⟨⟨_, rfl⟩, nofun⟩
  | cons x l =>
      simp only [popSignatures, bind_apply, size_listed, List.length_cons, Nat.add_one_ne_zero,
        if_false] at h
      cases hx : x.value? with
      | none =>
          rw [popNumber_of_none hx] at h
          cases h
          exact .inl ⟨x, rfl, hx, rfl⟩
      | some m =>
          simp only [popNumber_of_some hx, size_listed] at h
          refine .inr ⟨?_, ?_⟩
          · by_cases hsize : 0 ≤ m ∧ m ≤ n ∧ m ≤ l.length
            · rw [if_pos hsize] at h
              exact (popAccepted_fails _ _ (by omega) h).1
            · rw [if_neg hsize] at h
              cases h
              exact ⟨_, rfl⟩
          · rintro count hcount
            cases hcount
            rw [hx]
            exact Option.some_ne_none _

theorem checkMultisig_fails {enforced : Bool} {failure : Failure} {t : Stack}
    (hshape : ¬ ∃ o : MultisigOperands v, l = o.stack)
    (h : checkMultisig v op enforced (ofList l) = .error failure t) :
    MultisigFailure v op l failure := by
  rw [checkMultisig, bind_apply] at h
  cases hpubkeys : popPubkeys v op (ofList l) with
  | error failure' t' =>
      rw [hpubkeys] at h
      cases h
      exact popPubkeys_fails hpubkeys
  | ok pubkeys t' =>
      obtain ⟨pubkeyCount, rest, rfl, rfl, hcount, hkeys⟩ :=
        (popPubkeys_ensures v op l).of_ok hpubkeys
      rw [hpubkeys] at h
      dsimp only at h
      rw [bind_apply] at h
      cases hsignatures : popSignatures v op pubkeys.length (ofList rest) with
      | ok signatures u =>
          obtain ⟨signatureCount, below, rfl, _, hsignatureCount, hisSignature, hle⟩ :=
            (popSignatures_ensures v op pubkeys.length rest).of_ok hsignatures
          exact absurd ⟨⟨pubkeyCount, pubkeys, signatureCount, signatures, below, hcount,
            hsignatureCount, hkeys, hisSignature, hle⟩, rfl⟩ hshape
      | error failure' u =>
          rw [hsignatures] at h
          cases h
          rcases popSignatures_fails hsignatures with
            ⟨count, hhead, hnone, rfl⟩ | ⟨⟨fault, rfl⟩, hnumeric⟩
          · obtain ⟨below, rfl⟩ := List.head?_eq_some_iff.mp hhead
            exact .notNumeric (.signatures count below hcount hkeys) hnone
          · refine .misfit fault (List.cons_ne_nil _ _) fun count hread => ?_
            rcases hread.of_append hcount with rfl | hhead
            · have hvalue : count.value? = some (pubkeys.length : Int) := hcount
              rw [hvalue]
              exact Option.some_ne_none _
            · exact hnumeric count hhead

/-! ### The opcodes -/

variable {enforced : Bool} (hop : op.operation? = some (.checkMultisig enforced))

include hop

theorem checkSignatures_checkMultisig (s : Stack) :
    checkSignatures v op s = checkMultisig v op enforced s := by
  rw [checkSignatures, hop]

theorem checkSignatures_stack (o : MultisigOperands v) :
    checkSignatures v op (ofList o.stack) =
      conclude op o.check (decide (o.signatures.length ≤ o.pairs.card)) enforced (ofList o.rest) := by
  rw [checkSignatures_checkMultisig hop, checkMultisig_stack, o.passes_eq_decide_card]

theorem checkSignatures_of_not_shape (hshape : ¬ ∃ o : MultisigOperands v, l = o.stack) :
    ∃ failure left, checkSignatures v op (ofList l) = .error failure (ofList left) ∧
      MultisigFailure v op l failure ∧ left <:+ l := by
  rw [checkSignatures_checkMultisig hop]
  rcases exists_operands_or_error v op enforced l with ho | ⟨failure, t, herror, _⟩
  · exact absurd ho hshape
  · have hfailure := checkMultisig_fails hshape herror
    cases l with
    | nil =>
        cases herror
        exact ⟨_, [], rfl, hfailure, List.suffix_refl []⟩
    | cons x l =>
        obtain rfl := (checkMultisig_leaves v enforced).of_error herror
        exact ⟨failure, _, herror, hfailure, List.drop_suffix _ _⟩

theorem exists_checkSignatures_ok (o : MultisigOperands v)
    (h : enforced = true → o.signatures.length ≤ o.pairs.card) :
    ∃ report, checkSignatures v op (ofList o.stack) = .ok report
      (ofList (.int (if o.signatures.length ≤ o.pairs.card then 1 else 0) :: o.rest)) := by
  rw [checkSignatures_stack hop, conclude]
  by_cases hpass : o.signatures.length ≤ o.pairs.card
  · simp [hpass, Instruction.ofBool]
  · have hfree : enforced = false := Bool.eq_false_iff.mpr fun henforced => hpass (h henforced)
    simp [hpass, hfree, Instruction.ofBool]

end Effect

end

/-- **A multiple check decides the shape of the stack.** It succeeds exactly on the operands of a multiple check with anything below, and leaves a flag on what is below: one if there are at least as many distinct pairs that verify as there are signatures, and zero otherwise. If the check is enforced, it fails where the flag would be zero, with nothing pushed. On every other stack both opcodes fail as `MultisigFailure` says, and what they leave is a lower part of the stack. -/
theorem checkMultisig_decides_shape (v : Verifier) (s : List Instruction) :
    ((∃ report t, Effect.checkSignatures v .checkMultisig (ofList s) = .ok report t) ↔
      ∃ o : MultisigOperands v, s = o.stack) ∧
    (∀ o : MultisigOperands v, s = o.stack →
      (∃ report, Effect.checkSignatures v .checkMultisig (ofList s) = .ok report
        (ofList (.int (if o.signatures.length ≤ o.pairs.card then 1 else 0) :: o.rest))) ∧
      (o.signatures.length ≤ o.pairs.card → ∃ report,
        Effect.checkSignatures v .checkMultisigVerify (ofList s) =
          .ok report (ofList (.int 1 :: o.rest))) ∧
      (o.pairs.card < o.signatures.length → ∃ check,
        Effect.checkSignatures v .checkMultisigVerify (ofList s) =
          .error (.verifyFailed .checkMultisigVerify check) (ofList o.rest))) ∧
    ∀ op, op = .checkMultisig ∨ op = .checkMultisigVerify →
      ((¬ ∃ o : MultisigOperands v, s = o.stack) → ∃ failure left,
        Effect.checkSignatures v op (ofList s) = .error failure (ofList left) ∧
          MultisigFailure v op s failure ∧ left <:+ s) ∧
      (s ≠ [] → op.execute v (ofList s) = Effect.checkSignatures v op (ofList s)) := by
  have hcheck : Opcode.checkMultisig.operation? = some (.checkMultisig false) := rfl
  have hverify : Opcode.checkMultisigVerify.operation? = some (.checkMultisig true) := rfl
  refine ⟨⟨?_, ?_⟩, ?_, ?_⟩
  · rintro ⟨report, t, h⟩
    by_contra hshape
    obtain ⟨failure, left, herror, _⟩ := Effect.checkSignatures_of_not_shape hcheck hshape
    cases herror.symm.trans h
  · rintro ⟨o, rfl⟩
    obtain ⟨report, h⟩ := Effect.exists_checkSignatures_ok hcheck o nofun
    exact ⟨report, _, h⟩
  · rintro o rfl
    refine ⟨Effect.exists_checkSignatures_ok hcheck o nofun, fun hpass => ?_, fun hfail => ?_⟩
    · have hok := Effect.exists_checkSignatures_ok hverify o fun _ => hpass
      rwa [if_pos hpass] at hok
    · rw [Effect.checkSignatures_stack hverify, Effect.conclude, decide_eq_false (by omega)]
      exact ⟨_, rfl⟩
  · rintro op (rfl | rfl)
    · refine ⟨Effect.checkSignatures_of_not_shape hcheck, fun hne => ?_⟩
      rw [Opcode.execute_checkMultisig hcheck hne, Effect.checkSignatures_checkMultisig hcheck]
    · refine ⟨Effect.checkSignatures_of_not_shape hverify, fun hne => ?_⟩
      rw [Opcode.execute_checkMultisig hverify hne, Effect.checkSignatures_checkMultisig hverify]

/-- One signature given twice makes one pair, so two signatures are too many for it; and a negative count is a misfit. -/
theorem checkMultisig_decides_shape_twice :
    (∃ report, Effect.checkSignatures .placeholder .checkMultisig (ofList [.op .num2, .marker "PK1",
        .marker "PK2", .int 2, .marker "SIG1", .marker "SIG1", .int 9]) =
      .ok report (ofList [.int 0, .int 9])) ∧
    (∃ check, Effect.checkSignatures .placeholder .checkMultisigVerify (ofList [.op .num2,
        .marker "PK1", .marker "PK2", .int 2, .marker "SIG1", .marker "SIG1", .int 9]) =
      .error (.verifyFailed .checkMultisigVerify check) (ofList [.int 9])) ∧
    ∃ failure left, Effect.checkSignatures .placeholder .checkMultisig (ofList [.int (-1), .int 9]) =
      .error failure (ofList left) ∧
        MultisigFailure .placeholder .checkMultisig [.int (-1), .int 9] failure ∧
        left <:+ [.int (-1), .int 9] := by
  let o : MultisigOperands .placeholder := ⟨.op .num2, [.marker "PK1", .marker "PK2"], .int 2,
    [.marker "SIG1", .marker "SIG1"], [.int 9], rfl, rfl, by decide +kernel, by decide +kernel, by decide⟩
  have hcard : o.pairs.card = 1 := by
    decide +kernel
  have htwice := (checkMultisig_decides_shape .placeholder o.stack).2.1 o rfl
  rw [hcard] at htwice
  refine ⟨htwice.1, htwice.2.2 (by decide), ?_⟩
  refine ((checkMultisig_decides_shape .placeholder [.int (-1), .int 9]).2.2 .checkMultisig
    (.inl rfl)).1 ?_
  rintro ⟨o, ho⟩
  have hcount := o.pubkeyCount_eq
  rw [← (List.cons.inj ho).1] at hcount
  have hnegative : (-1 : Int) = o.pubkeys.length := Option.some.inj hcount
  omega

end ScriptTrace
