import Mathlib.Logic.Function.Basic
import ScriptTrace.Proofs.Provenance
import ScriptTrace.Proofs.Relabel.Runs

/-!
# Markers and verifiers do not interfere

The text of a marker is seen by nobody but the verifier and the equality tests, and the verifier is asked about nothing but items on the stack. So markers may be renamed, each to a text of its own, if the verifier is exchanged for one that judges the new texts as the old one judged the old texts. It need not do so for all items, only for integers and for instructions of the script, because no others get onto the stack. The proof has two parts: a verifier may be exchanged for one that judges these items alike, which changes nothing at all; and markers may be renamed if the verifier sees through the renaming.
-/

namespace ScriptTrace

/-! ### Verifiers that agree where they are asked -/

/-- The two verifiers judge the items that have the property alike. -/
structure Verifier.AgreeOn (p : Instruction → Prop) (v w : Verifier) : Prop where
  classify : ∀ i, p i → w.classify i = v.classify i
  verify : ∀ i j, p i → p j → w.verify i j = v.verify i j

namespace StackM

variable {α β : Type} {p : Instruction → Prop}

/-- On a stack of items that have the property the two computations do the same. -/
def SameOn (p : Instruction → Prop) (x y : StackM α) : Prop := ∀ s : Stack, s.All p → y s = x s

theorem SameOn.refl (x : StackM α) : SameOn p x x := fun _ _ => rfl

theorem SameOn.bind {x y : StackM α} {k k' : α → StackM β} {between : α → Prop} (hx : SameOn p x y)
    (hkeeps : x.Keeps p between) (hk : ∀ a, between a → SameOn p (k a) (k' a)) :
    SameOn p (x >>= k) (y >>= k') := by
  intro s hs
  rw [bind_apply, bind_apply, hx s hs]
  cases h : x s with
  | ok a t =>
      obtain ⟨ha, ht⟩ := (hkeeps s hs).of_ok h
      exact hk a ha t ht
  | error failure t => rfl

end StackM

namespace Effect

open StackM

variable {p : Instruction → Prop} {v w : Verifier} (hvw : v.AgreeOn p w) (op : Opcode)

theorem popAccepted_sameOn {accept accept' : Instruction → Bool}
    (haccept : ∀ i, p i → accept' i = accept i) (shortfall : Nat → MultisigFault)
    (received count : Nat) :
    SameOn p (popAccepted op accept shortfall received count)
      (popAccepted op accept' shortfall received count) := by
  induction count generalizing received with
  | zero => exact .refl _
  | succ count ih =>
      refine .bind (.refl _) (.popOperand op) fun item hitem => ?_
      dsimp only
      rw [haccept item hitem]
      split
      · exact .refl _
      · exact .bind (ih _) (popAccepted_keeps op _ _ _ _) fun _ _ => .refl _

include hvw

theorem popPubkeys_sameOn : SameOn p (popPubkeys v op) (popPubkeys w op) := by
  refine .bind (.refl _) (.popNumber op) fun needed _ => .bind (.refl _) .size fun size _ => ?_
  split
  · refine popAccepted_sameOn op (fun i hi => ?_) _ _ _
    rw [Verifier.isPubkey, hvw.classify i hi, Verifier.isPubkey]
  · exact .refl _

theorem popSignatures_sameOn (pubkeys : Nat) :
    SameOn p (popSignatures v op pubkeys) (popSignatures w op pubkeys) := by
  refine .bind (.refl _) .size fun n _ => ?_
  split
  · exact .refl _
  · refine .bind (.refl _) (.popNumber op) fun needed _ => .bind (.refl _) .size fun size _ => ?_
    split
    · refine popAccepted_sameOn op (fun i hi => ?_) _ _ _
      rw [Verifier.isSignature, hvw.classify i hi, Verifier.isSignature]
    · exact .refl _

theorem verifiedPairs_congr {signatures pubkeys : List Instruction}
    (hsignatures : ∀ i ∈ signatures, p i) (hpubkeys : ∀ i ∈ pubkeys, p i) :
    verifiedPairs w signatures pubkeys = verifiedPairs v signatures pubkeys := by
  rw [verifiedPairs, verifiedPairs]
  refine List.flatMap_congr fun s hs => congrArg _ (List.filter_congr fun k hk => ?_)
  rw [List.mem_eraseDups] at hs hk
  exact hvw.verify s k (hsignatures s hs) (hpubkeys k hk)

theorem checkSig_sameOn (enforced : Bool) : SameOn p (checkSig v op enforced) (checkSig w op enforced) := by
  refine .bind (.refl _) (.popOperand op) fun key hkey => .bind (.refl _) (.popOperand op) fun sig hsig => ?_
  rw [hvw.verify sig key hsig hkey]
  exact .refl _

theorem checkMultisig_sameOn (enforced : Bool) :
    SameOn p (checkMultisig v op enforced) (checkMultisig w op enforced) := by
  refine .bind (popPubkeys_sameOn hvw op) (popPubkeys_keeps op v) fun pubkeys hpubkeys => ?_
  refine .bind (popSignatures_sameOn hvw op _) (popSignatures_keeps op v _) fun signatures hsignatures => ?_
  dsimp only
  rw [verifiedPairs_congr hvw hsignatures hpubkeys]
  exact .refl _

theorem checkSignatures_sameOn : SameOn p (checkSignatures v op) (checkSignatures w op) := by
  rw [checkSignatures, checkSignatures]
  split
  · exact checkSig_sameOn hvw op _
  · exact checkMultisig_sameOn hvw op _
  · exact .refl _

end Effect

section

variable {p : Instruction → Prop} {v w : Verifier} (hvw : v.AgreeOn p w)

include hvw

/-- One family asks the verifier, the others do not know it. -/
theorem Family.run_sameOn (op : Opcode) (family : Family) :
    StackM.SameOn p (family.run v op) (family.run w op) := by
  cases family with
  | signature => exact Effect.checkSignatures_sameOn hvw op
  | _ => exact .refl _

theorem Opcode.execute_sameOn (op : Opcode) : StackM.SameOn p (op.execute v) (op.execute w) := by
  intro s hs
  cases hdisabled : op.disabled with
  | true => rw [execute_of_disabled hdisabled, execute_of_disabled hdisabled]
  | false =>
      by_cases hsize : s.size < op.argCount
      · rw [execute_of_size_lt hdisabled hsize, execute_of_size_lt hdisabled hsize]
      · have hle : op.argCount ≤ s.size := by omega
        rw [execute_of_le_size hdisabled hle, execute_of_le_size hdisabled hle]
        cases op.family? with
        | none => rfl
        | some family => exact Family.run_sameOn hvw op family s hs

theorem Instruction.execute_sameOn (i : Instruction) :
    StackM.SameOn p (i.execute v) (i.execute w) := by
  cases i with
  | op code => exact code.execute_sameOn hvw
  | _ => exact .refl _

end

/-- An instruction that has the property leaves only items that have it. -/
theorem Instruction.execute_keeps {p : Instruction → Prop} (hint : ∀ n, p (.int n)) (v : Verifier)
    {i : Instruction} (hi : p i) : (i.execute v).Keeps p fun _ => True := by
  cases i with
  | op code => exact code.execute_keeps hint v fun _ _ => hi
  | _ => exact .bind (.push hi) fun _ _ => .pure trivial

theorem Trace.stepsFrom_congr {p : Instruction → Prop} {v w : Verifier} (hvw : v.AgreeOn p w)
    (hint : ∀ n, p (.int n)) {script : List Instruction} {s : Stack} (hscript : ∀ i ∈ script, p i)
    (hs : s.All p) : stepsFrom w script s = stepsFrom v script s := by
  induction script, s using run_induction v with
  | nil s => rfl
  | ok i rest s report t h ih =>
      rw [List.forall_mem_cons] at hscript
      have ht : t.All p := ((i.execute_keeps hint v hscript.1 s hs).of_ok h).2
      have hw := i.execute_sameOn hvw s hs
      rw [h] at hw
      rw [stepsFrom_cons_of_ok h, stepsFrom_cons_of_ok hw, ih hscript.2 ht]
  | error i rest s failure t h =>
      have hw := i.execute_sameOn hvw s hs
      rw [h] at hw
      rw [stepsFrom_cons_of_error h, stepsFrom_cons_of_error hw]

/-- What there is to ask a verifier about while the script runs. -/
def Instruction.Available (script : List Instruction) (i : Instruction) : Prop :=
  (∃ n, i = .int n) ∨ i ∈ script

theorem simulate_congr {v w : Verifier} {script : List Instruction}
    (hvw : v.AgreeOn (Instruction.Available script) w) : simulate w script = simulate v script := by
  have hempty : Stack.empty.All (Instruction.Available script) := by
    rw [Stack.empty_eq, Stack.all_ofList]
    exact nofun
  rw [simulate, simulate,
    Trace.stepsFrom_congr hvw (fun n => .inl ⟨n, rfl⟩) (fun i hi => .inr hi) hempty]

/-! ### Renamed markers -/

namespace Instruction

/-- Give every marker a new text. -/
def rename (r : String → String) : Instruction → Instruction
  | .marker text => .marker (r text)
  | i => i

theorem rename_id : rename id = id := by
  funext i
  cases i <;> rfl

theorem rename_injective {r : String → String} (hr : Function.Injective r) :
    Function.Injective (rename r) := by
  intro i j
  cases i <;> cases j <;> simp [rename, hr.eq_iff]

end Instruction

/-- Judge an item by its label. -/
def Verifier.comap (f : Instruction → Instruction) (v : Verifier) : Verifier where
  classify i := v.classify (f i)
  verify i j := v.verify (f i) (f j)

theorem relabels_rename {r : String → String} (hr : Function.Injective r) (v : Verifier) :
    Relabels (Instruction.rename r) (v.comap (Instruction.rename r)) v where
  int _ := rfl
  number? i := by cases i <;> rfl
  classify _ := rfl
  verify _ _ := rfl
  eq_of_eq _ _ _ _ h := Instruction.rename_injective hr h

theorem Instruction.rename_follows {r : String → String} (hr : Function.Injective r) (v : Verifier)
    (i : Instruction) :
    i.Follows (Instruction.rename r) (· = ·) (v.comap (Instruction.rename r)) v := by
  refine .of_commutes (fun _ => rfl) ?_
  cases i with
  | op code => exact Opcode.execute_map (relabels_rename hr v) rfl fun _ => rename_injective hr
  | int n => exact .bind (StackM.push_commutes _) fun _ => .pure (Report.pushed _)
  | marker text => exact .bind (StackM.push_commutes _) fun _ => .pure (Report.pushed _)

/-- **Noninterference.** Suppose that the markers of a script are renamed, each to a text of its own, and that another verifier judges what is then available as the first one judged it under its old name. Then the renamed script leaves as many steps, of the same kinds and with the same failures, with everything in them renamed, and it gets the same verdict. If no marker changes its name, the traces are equal to the letter. -/
theorem simulate_rename_noninterference (script : List Instruction) (r : String → String)
    (hr : Function.Injective r) (v v' : Verifier)
    (hclassify : ∀ x, x.Available script → v'.classify (x.rename r) = v.classify x)
    (hverify : ∀ x y, x.Available script → y.Available script →
      v'.verify (x.rename r) (y.rename r) = v.verify x y) :
    List.Forall₂ (Step.Follows (Instruction.rename r) (· = ·)) (simulate v script).steps
        (simulate v' (script.map (Instruction.rename r))).steps ∧
      (simulate v' (script.map (Instruction.rename r))).valid = (simulate v script).valid ∧
      (r = id → simulate v' (script.map (Instruction.rename r)) = simulate v script) := by
  have hagree : v.AgreeOn (Instruction.Available script) (v'.comap (Instruction.rename r)) :=
    ⟨hclassify, hverify⟩
  obtain ⟨hsteps, hvalid⟩ := simulate_map (fun _ => rfl) (relabels_rename hr v').truthy
    fun i (_ : i ∈ script) => i.rename_follows hr v'
  rw [simulate_congr hagree] at hsteps hvalid
  refine ⟨hsteps, hvalid, ?_⟩
  rintro rfl
  rw [Instruction.rename_id, List.map_id, ← simulate_congr hagree, Instruction.rename_id]
  rfl

/-- The placeholder verifier goes by how a marker starts. A table that knows two markers and nothing else does as well, if these are the ones that the script has. -/
theorem simulate_rename_noninterference_tables :
    List.Forall₂ (Step.Follows (Instruction.rename (· ++ "!")) (· = ·))
      (simulate .placeholder [.marker "SIGNATURE", .int 1, .marker "PUBKEY", .marker "PUBKEY", .int 2,
        .op .checkMultisig]).steps
      (simulate (.ofTables [.marker "SIGNATURE!"] [.marker "PUBKEY!"]
          [(.marker "SIGNATURE!", .marker "PUBKEY!")])
        [.marker "SIGNATURE!", .int 1, .marker "PUBKEY!", .marker "PUBKEY!", .int 2,
          .op .checkMultisig]).steps ∧
    (simulate (.ofTables [.marker "SIGNATURE!"] [.marker "PUBKEY!"]
        [(.marker "SIGNATURE!", .marker "PUBKEY!")])
      [.marker "SIGNATURE!", .int 1, .marker "PUBKEY!", .marker "PUBKEY!", .int 2,
        .op .checkMultisig]).valid = true := by
  let script : List Instruction :=
    [.marker "SIGNATURE", .int 1, .marker "PUBKEY", .marker "PUBKEY", .int 2, .op .checkMultisig]
  let r : String → String := (· ++ "!")
  let tables : Verifier := .ofTables [.marker "SIGNATURE!"] [.marker "PUBKEY!"]
    [(.marker "SIGNATURE!", .marker "PUBKEY!")]
  have hr : Function.Injective r := fun a b h => by simpa [r] using h
  have hclassify : ∀ x, x.Available script →
      tables.classify (x.rename r) = Verifier.placeholder.classify x := by
    rintro x (⟨n, rfl⟩ | hx)
    · rfl
    · revert x
      decide
  have hverify : ∀ x y, x.Available script → y.Available script →
      tables.verify (x.rename r) (y.rename r) = Verifier.placeholder.verify x y := by
    have hmembers : ∀ x ∈ script, ∀ y ∈ script,
        tables.verify (x.rename r) (y.rename r) = Verifier.placeholder.verify x y := by
      decide
    rintro x y (⟨n, rfl⟩ | hx) (⟨m, rfl⟩ | hy)
    · rfl
    · rfl
    · revert x
      simp only [script, List.forall_mem_cons]
      exact ⟨rfl, rfl, rfl, rfl, rfl, rfl, nofun⟩
    · exact hmembers x hx y hy
  obtain ⟨hsteps, hvalid, _⟩ :=
    simulate_rename_noninterference script r hr .placeholder tables hclassify hverify
  refine ⟨hsteps, hvalid.trans ?_⟩
  decide +kernel

end ScriptTrace
