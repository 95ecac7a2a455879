import Mathlib.Data.List.InsertIdx
import Mathlib.Logic.Function.Basic
import ScriptTrace.Proofs.Arity
import ScriptTrace.Proofs.Effect.Listed
import ScriptTrace.Proofs.Effect.Outcome
import ScriptTrace.Proofs.Effect.Pairs

/-!
# Relabelled items

Operations look at an item in three ways only: as a number, which also tells whether it is true; through the verifier; and, where equality is tested or pairs are counted, by comparing it with another one. If a relabelling of items respects these, an operation on the relabelled stack does what it does on the stack itself, with all items relabelled: those on the stack then, and those in the report or in the failure. A computation commutes with the relabelling if its lines do.
-/

namespace ScriptTrace

open Stack (ofList)

/-! ### Relabelling -/

def Stack.map (f : Instruction → Instruction) (s : Stack) : Stack := ofList (s.toList.map f)

namespace Stack

variable (f : Instruction → Instruction)

@[simp] theorem map_ofList (l : List Instruction) : (ofList l).map f = ofList (l.map f) := by
  rw [Stack.map, toList_ofList]

@[simp] theorem toList_map (s : Stack) : (s.map f).toList = s.toList.map f := by
  rw [Stack.map, toList_ofList]

@[simp] theorem size_map (s : Stack) : (s.map f).size = s.size := by
  rw [← length_toList, toList_map, List.length_map, length_toList]

theorem push_map (s : Stack) (item : Instruction) : (s.push item).map f = (s.map f).push (f item) := by
  obtain ⟨l, rfl⟩ := s.exists_eq_ofList
  simp

end Stack

def Check.map (f : Instruction → Instruction) : Check → Check
  | .equal a b => .equal (f a) (f b)
  | .truthy item => .truthy (f item)
  | .signature sig key => .signature (f sig) (f key)
  | check => check

def Change.map (f : Instruction → Instruction) : Change → Change
  | .counted size => .counted size
  | .popped a => .popped (f a)
  | .popped2 a b => .popped2 (f a) (f b)
  | .copied a => .copied (f a)
  | .copied2 a b => .copied2 (f a) (f b)
  | .copied3 a b c => .copied3 (f a) (f b) (f c)
  | .copiedTrue a => .copiedTrue (f a)
  | .keptFalse a => .keptFalse (f a)
  | .copiedAt position a => .copiedAt position (f a)
  | .takenFrom position a => .takenFrom position (f a)
  | .tucked a => .tucked (f a)
  | .moved a => .moved (f a)
  | .moved2 a b => .moved2 (f a) (f b)
  | .swapped a b => .swapped (f a) (f b)
  | .swapped2 a b c d => .swapped2 (f a) (f b) (f c) (f d)

def Report.map (f : Instruction → Instruction) : Report → Report
  | .pushed literal => .pushed (f literal)
  | .rearranged op change => .rearranged op (change.map f)
  | .tested op check passed enforced => .tested op (check.map f) passed enforced
  | report => report

def Failure.map (f : Instruction → Instruction) : Failure → Failure
  | .notNumeric op found => .notNumeric op (f found)
  | .verifyFailed op check => .verifyFailed op (check.map f)
  | failure => failure

theorem Report.kind_map (f : Instruction → Instruction) (report : Report) :
    (report.map f).kind = report.kind := by
  cases report <;> rfl

/-- Every item keeps its number, and under the second verifier the role it has under the first. Items that have a role stay apart. -/
structure Relabels (f : Instruction → Instruction) (v v' : Verifier) : Prop where
  int : ∀ n, f (.int n) = .int n
  number? : ∀ i, (f i).number? = i.number?
  classify : ∀ i, v'.classify (f i) = v.classify i
  verify : ∀ i j, v'.verify (f i) (f j) = v.verify i j
  eq_of_eq : ∀ i j, v.classify i ≠ .neither → v.classify j ≠ .neither → f i = f j → i = j

theorem Relabels.truthy {f : Instruction → Instruction} {v v' : Verifier} (hf : Relabels f v v')
    (i : Instruction) : (f i).truthy = i.truthy := by
  rw [Bool.eq_iff_iff, ← not_iff_not, Bool.not_eq_true, Bool.not_eq_true,
    Instruction.truthy_eq_false_iff, Instruction.truthy_eq_false_iff, hf.number?]

/-! ### Computations that commute with a relabelling -/

namespace StackM

variable {α β γ δ : Type} {f : Instruction → Instruction}

/-- An outcome with its items relabelled, where `g` relabels the value. -/
def mapResult (f : Instruction → Instruction) (g : α → β) :
    EStateM.Result Failure Stack α → EStateM.Result Failure Stack β
  | .ok a s => .ok (g a) (s.map f)
  | .error failure s => .error (failure.map f) (s.map f)

/-- On a relabelled stack the second computation does what the first one does on the stack. -/
def Commutes (f : Instruction → Instruction) (g : α → β) (x : StackM α) (y : StackM β) : Prop :=
  ∀ s, y (s.map f) = mapResult f g (x s)

theorem Commutes.pure {g : α → β} (a : α) : Commutes f g (Pure.pure a) (Pure.pure (g a)) := fun _ => rfl

theorem Commutes.throw {g : α → β} (failure : Failure) :
    Commutes f g (MonadExcept.throw failure) (MonadExcept.throw (failure.map f)) := fun _ => rfl

/-- The second computation goes on with the relabelled value; the value may be assumed to be one that the first computation can have. -/
theorem Commutes.bind_of_yields {g : α → β} {h : γ → δ} {x : StackM α} {y : StackM β}
    {k : α → StackM γ} {k' : β → StackM δ} {p : α → Prop} (hx : Commutes f g x y) (hp : x.Yields p)
    (hk : ∀ a, p a → Commutes f h (k a) (k' (g a))) : Commutes f h (x >>= k) (y >>= k') := by
  intro s
  rw [bind_apply, bind_apply, hx s]
  cases hs : x s with
  | ok a t => exact hk a ((hp s).of_ok hs) t
  | error failure t => rfl

theorem Commutes.bind {g : α → β} {h : γ → δ} {x : StackM α} {y : StackM β} {k : α → StackM γ}
    {k' : β → StackM δ} (hx : Commutes f g x y) (hk : ∀ a, Commutes f h (k a) (k' (g a))) :
    Commutes f h (x >>= k) (y >>= k') :=
  hx.bind_of_yields (.top x) fun a _ => hk a

theorem Commutes.throw_bind {h : γ → δ} (failure : Failure) (k : α → StackM γ) (k' : β → StackM δ) :
    Commutes f h (MonadExcept.throw failure >>= k) (MonadExcept.throw (failure.map f) >>= k') :=
  fun _ => rfl

theorem size_commutes : Commutes f id size size := by
  intro s
  rw [size, Stack.size_map]
  rfl

theorem push_commutes (item : Instruction) : Commutes f id (push item) (push (f item)) := by
  intro s
  rw [push, ← Stack.push_map]
  rfl

variable (op : Opcode)

theorem popOperand_commutes : Commutes f f (popOperand op) (popOperand op) := by
  intro s
  obtain ⟨l, rfl⟩ := s.exists_eq_ofList
  cases l with
  | nil => rfl
  | cons x l =>
      rw [Stack.map_ofList, List.map_cons, popOperand_cons, popOperand_cons, ← Stack.map_ofList]
      rfl

theorem operandAt_commutes (d : Nat) : Commutes f f (operandAt op d) (operandAt op d) := by
  intro s
  obtain ⟨l, rfl⟩ := s.exists_eq_ofList
  rw [Stack.map_ofList, operandAt_listed, operandAt_listed, List.getElem?_map, ← Stack.map_ofList]
  cases l[d]? <;> rfl

theorem removeAt_commutes (d : Nat) : Commutes f f (removeAt op d) (removeAt op d) := by
  intro s
  obtain ⟨l, rfl⟩ := s.exists_eq_ofList
  rw [Stack.map_ofList, removeAt_listed, removeAt_listed, List.getElem?_map, List.eraseIdx_map,
    ← Stack.map_ofList, ← Stack.map_ofList]
  cases l[d]? <;> rfl

variable {v v' : Verifier} (hf : Relabels f v v')

include hf

theorem popNumber_commutes : Commutes f id (popNumber op) (popNumber op) := by
  refine .bind (popOperand_commutes op) fun item => ?_
  rw [hf.number?]
  cases item.number? with
  | some n => exact .pure n.toInt
  | none => exact .throw (.notNumeric op item)

theorem pushInt_commutes (n : Int64) : Commutes f id (push (.int n)) (push (.int n)) := by
  have hpush := push_commutes (f := f) (.int n)
  rwa [hf.int] at hpush

theorem pushNumber_commutes (n : Int) : Commutes f id (pushNumber op n) (pushNumber op n) := by
  rw [pushNumber, Instruction.ofInt?]
  split
  · rename_i literal hliteral
    obtain ⟨_, heq⟩ := Option.ite_none_right_eq_some.mp hliteral
    cases heq
    exact pushInt_commutes hf _
  · exact .throw (.numericOverflow op)

end StackM

/-! ### The operations -/

section

variable {f : Instruction → Instruction} {v v' : Verifier} (hf : Relabels f v v')

include hf

theorem Rearrangement.onItems?_map {r : Rearrangement} {l m : List Instruction} {change : Change}
    (h : r.onItems? l = some (change, m)) :
    r.onItems? (l.map f) = some (change.map f, m.map f) := by
  revert h
  fun_cases Rearrangement.onItems? r l <;> intro h <;> cases h
  all_goals simp [onItems?, Change.map, hf.int, hf.truthy, *]

namespace Effect

open StackM

variable (op : Opcode)

theorem unary_commutes : Commutes f (Report.map f) (unary op) (unary op) := by
  refine .bind (popNumber_commutes op hf) fun x => ?_
  dsimp only [id]
  split
  · exact .bind (pushNumber_commutes op hf _) fun _ => .pure (Report.unary ..)
  · exact .throw (.wrongFamily op .unaryArithmetic)

theorem binary_commutes : Commutes f (Report.map f) (binary op) (binary op) := by
  refine .bind (popNumber_commutes op hf) fun a => .bind (popNumber_commutes op hf) fun b => ?_
  dsimp only [id]
  split
  · exact .bind (pushNumber_commutes op hf _) fun _ => .pure (Report.binary ..)
  · split
    · exact .bind (pushInt_commutes hf _) fun _ => .pure (Report.tested op (.numEqual a b) true true)
    · exact .throw (.verifyFailed op (.numEqual a b))
  · exact .throw (.wrongFamily op .binaryArithmetic)

theorem within_commutes : Commutes f (Report.map f) (within op) (within op) :=
  .bind (popNumber_commutes op hf) fun _ => .bind (popNumber_commutes op hf) fun _ =>
    .bind (popNumber_commutes op hf) fun _ => .bind (pushInt_commutes hf _) fun _ => .pure (Report.within ..)

/-- The one place where any two items are compared. -/
theorem equal_commutes (hinjective : Function.Injective f) :
    Commutes f (Report.map f) (equal op) (equal op) := by
  refine .bind (popOperand_commutes op) fun a => .bind (popOperand_commutes op) fun b => ?_
  have hbeq : (f a == f b) = (a == b) := by
    rw [Bool.eq_iff_iff, beq_iff_eq, beq_iff_eq, hinjective.eq_iff]
  dsimp only
  rw [hbeq]
  refine .bind (pushInt_commutes hf _) fun _ => ?_
  split
  · exact .throw_bind (.verifyFailed op (.equal a b)) _ _
  · exact .pure (Report.tested op (.equal a b) _ _)

theorem verify_commutes : Commutes f (Report.map f) (verify op) (verify op) := by
  refine .bind (popOperand_commutes op) fun a => ?_
  rw [hf.truthy]
  split
  · exact .pure (Report.tested op (.truthy a) true true)
  · exact .throw (.verifyFailed op (.truthy a))

theorem popPosition_commutes : Commutes f id (popPosition op) (popPosition op) := by
  refine .bind (popNumber_commutes op hf) fun n => .bind size_commutes fun size => ?_
  dsimp only [id]
  split
  · exact .pure n.toNat
  · exact .throw (.indexOutOfBounds op n size)

/-- With enough items: without them, an operation may have changed the stack before it notices. -/
theorem runRearrangement_map {r : Rearrangement} {s : Stack} (hs : r.arity ≤ s.size) :
    runRearrangement op r (s.map f) = mapResult f (Change.map f) (runRearrangement op r s) := by
  cases hr : r.readsPosition with
  | false =>
      obtain ⟨l, rfl⟩ := s.exists_eq_ofList
      rw [Stack.size_ofList] at hs
      obtain ⟨⟨change, m⟩, hm⟩ := Option.isSome_iff_exists.mp (Rearrangement.isSome_onItems? hr hs)
      rw [Stack.map_ofList, runRearrangement_of_onItems? op hm,
        runRearrangement_of_onItems? op (Rearrangement.onItems?_map hf hm), mapResult, Stack.map_ofList]
  | true =>
      rcases Rearrangement.readsPosition_iff.mp hr with rfl | rfl
      · have hpick : Commutes f (Change.map f) (runRearrangement op .pick) (runRearrangement op .pick) :=
          .bind (popPosition_commutes hf op) fun position => .bind (operandAt_commutes op position)
            fun a => .bind (push_commutes a) fun _ => .pure (Change.copiedAt position a)
        exact hpick s
      · have hroll : Commutes f (Change.map f) (runRearrangement op .roll) (runRearrangement op .roll) :=
          .bind (popPosition_commutes hf op) fun position => .bind (removeAt_commutes op position)
            fun a => .bind (push_commutes a) fun _ => .pure (Change.takenFrom position a)
        exact hroll s

theorem rearrange_map {r : Rearrangement} (hop : op.operation? = some (.rearrange r)) {s : Stack}
    (hs : r.arity ≤ s.size) :
    rearrange op (s.map f) = mapResult f (Report.map f) (rearrange op s) := by
  rw [rearrange, hop]
  dsimp only
  rw [bind_apply, bind_apply, runRearrangement_map hf op hs]
  cases runRearrangement op r s <;> rfl

/-! Signature checks -/

theorem conclude_commutes (check : Check) (passed enforced : Bool) :
    Commutes f (Report.map f) (conclude op check passed enforced)
      (conclude op (check.map f) passed enforced) := by
  rw [conclude, conclude]
  split
  · exact .throw_bind (.verifyFailed op check) _ _
  · exact .bind (pushInt_commutes hf _) fun _ => .pure (Report.tested op check passed enforced)

theorem checkSig_commutes (enforced : Bool) :
    Commutes f (Report.map f) (checkSig v op enforced) (checkSig v' op enforced) := by
  refine .bind (popOperand_commutes op) fun key => .bind (popOperand_commutes op) fun sig => ?_
  rw [hf.verify]
  exact conclude_commutes hf op (.signature sig key) _ enforced

omit hf in
theorem popAccepted_commutes {accept accept' : Instruction → Bool}
    (haccept : ∀ i, accept' (f i) = accept i) (shortfall : Nat → MultisigFault) (received count : Nat) :
    Commutes f (List.map f) (popAccepted op accept shortfall received count)
      (popAccepted op accept' shortfall received count) := by
  induction count generalizing received with
  | zero => exact .pure []
  | succ count ih =>
      refine .bind (popOperand_commutes op) fun item => ?_
      dsimp only
      rw [haccept]
      split
      · exact .throw_bind (.multisig op (shortfall received)) _ _
      · exact .bind (ih _) fun items => .pure (item :: items)

omit hf in
theorem popAccepted_yields (accept : Instruction → Bool) (shortfall : Nat → MultisigFault)
    (received count : Nat) :
    (popAccepted op accept shortfall received count).Yields fun items => ∀ i ∈ items, accept i = true := by
  induction count generalizing received with
  | zero => exact .pure nofun
  | succ count ih =>
      refine .bind fun item => ?_
      dsimp only
      split
      · exact fun _ => trivial
      · rename_i hitem
        refine .bind_of_yields (ih _) fun items hitems => .pure ?_
        rw [Bool.not_eq_true, Bool.not_eq_false'] at hitem
        exact List.forall_mem_cons.mpr ⟨hitem, hitems⟩

theorem popPubkeys_commutes : Commutes f (List.map f) (popPubkeys v op) (popPubkeys v' op) := by
  refine .bind (popNumber_commutes op hf) fun needed => .bind size_commutes fun size => ?_
  dsimp only [id]
  split
  · exact popAccepted_commutes op (fun i => by rw [Verifier.isPubkey, hf.classify]; rfl) _ _ _
  · exact .throw (.multisig op (.tooManyPubkeys needed size))

theorem popSignatures_commutes (pubkeys : Nat) :
    Commutes f (List.map f) (popSignatures v op pubkeys) (popSignatures v' op pubkeys) := by
  refine .bind size_commutes fun n => ?_
  dsimp only [id]
  split
  · exact .throw_bind (.multisig op .noSignatureCount) _ _
  · refine .bind (popNumber_commutes op hf) fun needed => .bind size_commutes fun size => ?_
    dsimp only [id]
    split
    · exact popAccepted_commutes op (fun i => by rw [Verifier.isSignature, hf.classify]; rfl) _ _ _
    · exact .throw (.multisig op (.tooManySignatures needed pubkeys size))

omit hf in
theorem popPubkeys_yields (v : Verifier) :
    (popPubkeys v op).Yields fun items => ∀ i ∈ items, v.isPubkey i = true := by
  refine .bind fun needed => .bind fun size => ?_
  split
  · exact popAccepted_yields op _ _ _ _
  · exact .throw

omit hf in
theorem popSignatures_yields (v : Verifier) (pubkeys : Nat) :
    (popSignatures v op pubkeys).Yields fun items => ∀ i ∈ items, v.isSignature i = true := by
  refine .bind fun n => ?_
  split
  · exact fun _ => trivial
  · refine .bind fun needed => .bind fun size => ?_
    split
    · exact popAccepted_yields op _ _ _ _
    · exact .throw

/-- Signatures stay apart, and so do keys; hence the pairs that verify are as many as before. -/
theorem verifiedPairs_map {signatures pubkeys : List Instruction}
    (hsignatures : ∀ i ∈ signatures, v.isSignature i = true)
    (hpubkeys : ∀ i ∈ pubkeys, v.isPubkey i = true) :
    verifiedPairs v' (signatures.map f) (pubkeys.map f) =
      (verifiedPairs v signatures pubkeys).map (Prod.map f f) := by
  have hapart (l : List Instruction) (hl : ∀ i ∈ l, v.classify i ≠ .neither) :
      (l.map f).eraseDups = l.eraseDups.map f :=
    eraseDups_map fun i hi j hj => hf.eq_of_eq i j (hl i hi) (hl j hj)
  have hs : ∀ i ∈ signatures, v.classify i ≠ .neither := by
    intro i hi hneither
    simpa [Verifier.isSignature, hneither] using hsignatures i hi
  have hk : ∀ i ∈ pubkeys, v.classify i ≠ .neither := by
    intro i hi hneither
    simpa [Verifier.isPubkey, hneither] using hpubkeys i hi
  rw [verifiedPairs, verifiedPairs, hapart _ hs, hapart _ hk, List.flatMap_map, List.map_flatMap]
  simp [List.filter_map, Function.comp_def, hf.verify]

theorem checkMultisig_commutes (enforced : Bool) :
    Commutes f (Report.map f) (checkMultisig v op enforced) (checkMultisig v' op enforced) := by
  refine .bind_of_yields (popPubkeys_commutes hf op) (popPubkeys_yields op v) fun pubkeys hpubkeys => ?_
  rw [List.length_map]
  refine .bind_of_yields (popSignatures_commutes hf op _) (popSignatures_yields op v _)
    fun signatures hsignatures => ?_
  dsimp only
  rw [verifiedPairs_map hf hsignatures hpubkeys, List.length_map, List.length_map]
  exact conclude_commutes hf op (.multisig ..) _ enforced

theorem checkSignatures_commutes :
    Commutes f (Report.map f) (checkSignatures v op) (checkSignatures v' op) := by
  rw [checkSignatures, checkSignatures]
  split
  · exact checkSig_commutes hf op _
  · exact checkMultisig_commutes hf op _
  · exact .throw (.wrongFamily op .signature)

end Effect

/-! ### One opcode -/

theorem Family.run_map {op : Opcode} {o : Operation} (hop : op.operation? = some o) {s : Stack}
    (hs : op.argCount ≤ s.size) (hequal : o.family = .equality → Function.Injective f) :
    o.family.run v' op (s.map f) = StackM.mapResult f (Report.map f) (o.family.run v op s) := by
  cases o with
  | unary _ => exact Effect.unary_commutes hf op s
  | binary _ => exact Effect.binary_commutes hf op s
  | numEqualVerify => exact Effect.binary_commutes hf op s
  | within => exact Effect.within_commutes hf op s
  | rearrange r =>
      rw [Opcode.argCount_of_operation? hop] at hs
      exact Effect.rearrange_map hf op hop hs
  | equal _ => exact Effect.equal_commutes hf op (hequal rfl) s
  | verify => exact Effect.verify_commutes hf op s
  | checkSig _ => exact Effect.checkSignatures_commutes hf op s
  | checkMultisig _ => exact Effect.checkSignatures_commutes hf op s

/-- An opcode that is its own label does on a relabelled stack what it does on the stack. -/
theorem Opcode.execute_map {op : Opcode} (hop : f (.op op) = .op op)
    (hequal : op.family? = some .equality → Function.Injective f) (s : Stack) :
    op.execute v' (s.map f) = StackM.mapResult f (Report.map f) (op.execute v s) := by
  cases hdisabled : op.disabled with
  | true =>
      rw [execute_of_disabled hdisabled, execute_of_disabled hdisabled]
      rfl
  | false =>
      by_cases hsize : s.size < op.argCount
      · rw [execute_of_size_lt hdisabled hsize, execute_of_size_lt hdisabled (by rwa [Stack.size_map]),
          Stack.size_map]
        rfl
      · have hle : op.argCount ≤ s.size := by omega
        rw [execute_of_le_size hdisabled hle, execute_of_le_size hdisabled (by rwa [Stack.size_map])]
        cases hoperation : op.operation? with
        | none =>
            rw [family?_of_operation?_none hoperation]
            dsimp only
            rw [StackM.mapResult, Stack.push_map, hop]
            rfl
        | some o =>
            rw [family?_of_operation? hoperation] at hequal ⊢
            exact Family.run_map hf hoperation hle fun ho => hequal (congrArg some ho)

end

end ScriptTrace
