import ScriptTrace.Proofs.Relabel.Runs

/-!
# Literals and constant opcodes

The opcodes from `OP_0` to `OP_16` and `OP_1NEGATE` stand for small integers. They have no operation: executed, they are pushed like anything without one, and only the operations that read numbers find out what they stand for. A literal of the same value is pushed too, with another message. So a script does not notice which of the two is used, unless it tests items for equality. The proof relabels both scripts by the one that has literals only; this keeps numbers, and the placeholder verifier looks at markers alone.
-/

namespace ScriptTrace

namespace Instruction

/-- The same instruction, or a literal and a constant opcode of its value. -/
inductive Interchangeable : Instruction → Instruction → Prop where
  | refl (i : Instruction) : Interchangeable i i
  | literal {code : Opcode} {n : Int64} (h : code.smallInt? = some n) : Interchangeable (.int n) (.op code)
  | constant {code : Opcode} {n : Int64} (h : code.smallInt? = some n) : Interchangeable (.op code) (.int n)

/-- The same instruction, or two that count as the same number. -/
def SameNumber (a b : Instruction) : Prop :=
  a = b ∨ ∃ n, a.number? = some n ∧ b.number? = some n

/-- Write a number as a literal. -/
def asLiteral (i : Instruction) : Instruction := (i.number?.map .int).getD i

theorem asLiteral_of_some {i : Instruction} {n : Int64} (h : i.number? = some n) :
    i.asLiteral = .int n := by
  rw [asLiteral, h]
  rfl

theorem asLiteral_of_none {i : Instruction} (h : i.number? = none) : i.asLiteral = i := by
  rw [asLiteral, h]
  rfl

theorem number?_asLiteral (i : Instruction) : i.asLiteral.number? = i.number? := by
  cases h : i.number? with
  | none => rw [asLiteral_of_none h, h]
  | some n => rw [asLiteral_of_some h, number?]

theorem asLiteral_eq_iff {a b : Instruction} : a.asLiteral = b.asLiteral ↔ a.SameNumber b := by
  constructor
  · intro h
    have hnumber : a.number? = b.number? := by
      rw [← number?_asLiteral a, h, number?_asLiteral]
    cases ha : a.number? with
    | none =>
        rw [asLiteral_of_none ha, asLiteral_of_none (hnumber.symm.trans ha)] at h
        exact .inl h
    | some n => exact .inr ⟨n, ha, hnumber.symm.trans ha⟩
  · rintro (rfl | ⟨n, ha, hb⟩)
    · rfl
    · rw [asLiteral_of_some ha, asLiteral_of_some hb]

theorem Interchangeable.sameNumber {a b : Instruction} (h : Interchangeable a b) : a.SameNumber b := by
  cases h with
  | refl => exact .inl rfl
  | literal h => exact .inr ⟨_, rfl, h⟩
  | constant h => exact .inr ⟨_, h, rfl⟩

end Instruction

/-! ### One instruction -/

theorem Verifier.tail?_of_number? (heads : List String) {i : Instruction} {n : Int64}
    (h : i.number? = some n) : tail? heads i = none := by
  cases i with
  | marker text => cases h
  | _ => rfl

theorem Verifier.tail?_asLiteral (heads : List String) (i : Instruction) :
    tail? heads i.asLiteral = tail? heads i := by
  cases h : i.number? with
  | none => rw [Instruction.asLiteral_of_none h]
  | some n => rw [Instruction.asLiteral_of_some h, tail?_of_number? heads h, tail?_of_number? heads rfl]

theorem Verifier.signatureTail?_asLiteral (i : Instruction) :
    signatureTail? i.asLiteral = signatureTail? i := tail?_asLiteral _ i

theorem Verifier.pubkeyTail?_asLiteral (i : Instruction) :
    pubkeyTail? i.asLiteral = pubkeyTail? i := tail?_asLiteral _ i

theorem relabels_asLiteral : Relabels Instruction.asLiteral .placeholder .placeholder where
  int _ := rfl
  number? := Instruction.number?_asLiteral
  classify i := by
    dsimp only [Verifier.placeholder]
    rw [Verifier.signatureTail?_asLiteral, Verifier.pubkeyTail?_asLiteral]
  verify i j := by
    dsimp only [Verifier.placeholder]
    rw [Verifier.signatureTail?_asLiteral, Verifier.pubkeyTail?_asLiteral]
  eq_of_eq i j hi hj h := by
    have hnone {i : Instruction} (hi : Verifier.placeholder.classify i ≠ .neither) : i.number? = none := by
      by_contra hsome
      obtain ⟨n, hn⟩ := Option.ne_none_iff_exists'.mp hsome
      simp [Verifier.placeholder, Verifier.signatureTail?, Verifier.pubkeyTail?,
        Verifier.tail?_of_number? _ hn] at hi
    rwa [Instruction.asLiteral_of_none (hnone hi), Instruction.asLiteral_of_none (hnone hj)] at h

/-- A constant opcode passes both checks on any stack and has no operation. -/
theorem Opcode.execute_of_smallInt? {op : Opcode} {n : Int64} (h : op.smallInt? = some n) (v : Verifier)
    (s : Stack) : op.execute v s = .ok (.unimplemented op) (s.push (.op op)) := by
  have hop : op.disabled = false ∧ op.argCount = 0 ∧ op.family? = none := by
    cases op <;> cases h <;> exact ⟨rfl, rfl, rfl⟩
  rw [execute_of_le_size hop.1 (by omega), hop.2.2]

theorem Opcode.eq_of_family?_equality {op : Opcode} (h : op.family? = some .equality) :
    op = .equal ∨ op = .equalVerify := by
  cases op <;> cases h <;> simp

namespace Instruction

theorem exists_execute_of_number? {i : Instruction} {n : Int64} (h : i.number? = some n) (v : Verifier) :
    ∃ report, ∀ s, i.execute v s = .ok report (s.push i) := by
  cases i with
  | int m => exact ⟨.pushed (.int m), fun _ => rfl⟩
  | marker text => cases h
  | op code => exact ⟨.unimplemented code, code.execute_of_smallInt? h v⟩

/-- Written as a literal, an instruction does the same, unless it tests for equality. -/
theorem asLiteral_follows {i : Instruction} (hequal : i ≠ .op .equal) (hequalVerify : i ≠ .op .equalVerify) :
    i.Follows asLiteral (fun _ _ => True) .placeholder .placeholder := by
  cases h : i.number? with
  | some n =>
      obtain ⟨report, hi⟩ := exists_execute_of_number? h .placeholder
      refine ⟨fun _ => .pushed (.int n), fun _ => trivial, fun s => ?_⟩
      rw [hi, StackM.mapResult, Stack.push_map, asLiteral_of_some h]
      rfl
  | none =>
      refine .of_commutes (fun _ => trivial) ?_
      cases i with
      | int n => cases h
      | marker text => exact .bind (StackM.push_commutes _) fun _ => .pure (Report.pushed _)
      | op code =>
          have hcode := asLiteral_of_none h
          rw [hcode]
          refine Opcode.execute_map relabels_asLiteral hcode fun hfamily => ?_
          rcases Opcode.eq_of_family?_equality hfamily with rfl | rfl
          · exact absurd rfl hequal
          · exact absurd rfl hequalVerify

end Instruction

/-! ### Scripts -/

/-- Steps that failed or did not fail alike, with the same numbers at the same places of the stack. -/
structure Step.SameNumbers (a b : Step) : Prop where
  failed : a.failed = b.failed
  stack : List.Forall₂ Instruction.SameNumber a.stack b.stack

theorem Step.sameNumbers_of_follows {kinds : StepKind → StepKind → Prop} {a b c : Step}
    (ha : a.Follows Instruction.asLiteral kinds c) (hb : b.Follows Instruction.asLiteral kinds c) :
    a.SameNumbers b where
  failed := ha.failed.symm.trans hb.failed
  stack := (map_eq_map_iff_forall₂ Instruction.asLiteral_eq_iff).mp (ha.stack.symm.trans hb.stack)

/-- Two runs that both follow one that has literals only. -/
theorem Step.forall₂_sameNumbers {kinds : StepKind → StepKind → Prop} {a b c : List Step}
    (ha : List.Forall₂ (Step.Follows Instruction.asLiteral kinds) a c)
    (hb : List.Forall₂ (Step.Follows Instruction.asLiteral kinds) b c) :
    List.Forall₂ Step.SameNumbers a b := by
  induction ha generalizing b with
  | nil =>
      cases hb
      exact .nil
  | cons hstep _ ih =>
      cases hb with
      | cons hother hb => exact .cons (sameNumbers_of_follows hstep hother) (ih hb)

section

variable {script other : List Instruction} (h : List.Forall₂ Instruction.Interchangeable script other)

include h

theorem map_asLiteral_of_interchangeable :
    script.map Instruction.asLiteral = other.map Instruction.asLiteral :=
  (map_eq_map_iff_forall₂ Instruction.asLiteral_eq_iff).mpr (h.imp fun _ _ hi => hi.sameNumber)

/-- An opcode that is no constant stands at the same places in both scripts. -/
theorem mem_of_interchangeable {op : Opcode} (hop : op.smallInt? = none) (hmem : .op op ∈ other) :
    .op op ∈ script := by
  have hliteral := List.mem_map_of_mem (f := Instruction.asLiteral) hmem
  rw [← map_asLiteral_of_interchangeable h, List.mem_map] at hliteral
  obtain ⟨i, hi, heq⟩ := hliteral
  rcases Instruction.asLiteral_eq_iff.mp heq with rfl | ⟨n, _, hn⟩
  · exact hi
  · cases hop.symm.trans hn

end

/-- **Literals and constant opcodes are interchangeable.** Under the placeholder verifier two scripts that differ only in whether a small integer is written as a literal or as an opcode, and that do not test items for equality, leave as many steps, fail in the same ones, and have the same numbers at the same places of the stack after each; all other items are the same. So is the verdict. -/
theorem simulate_interchangeable (script other : List Instruction)
    (h : List.Forall₂ Instruction.Interchangeable script other)
    (hequal : .op .equal ∉ script) (hequalVerify : .op .equalVerify ∉ script) :
    List.Forall₂ Step.SameNumbers (simulate .placeholder script).steps
        (simulate .placeholder other).steps ∧
      (simulate .placeholder script).valid = (simulate .placeholder other).valid := by
  have hfollows (l : List Instruction) (hl : .op .equal ∉ l) (hl' : .op .equalVerify ∉ l) :=
    simulate_map (fun _ => trivial) relabels_asLiteral.truthy fun i (hi : i ∈ l) =>
      Instruction.asLiteral_follows (fun heq => hl (heq ▸ hi)) fun heq => hl' (heq ▸ hi)
  obtain ⟨hsteps, hvalid⟩ := hfollows script hequal hequalVerify
  obtain ⟨hstepsOther, hvalidOther⟩ := hfollows other
    (fun hmem => hequal (mem_of_interchangeable h rfl hmem))
    (fun hmem => hequalVerify (mem_of_interchangeable h rfl hmem))
  rw [← map_asLiteral_of_interchangeable h] at hstepsOther hvalidOther
  exact ⟨Step.forall₂_sameNumbers hsteps hstepsOther, hvalid.symm.trans hvalidOther⟩

/-- Constants and literals as a position, as items that are copied if true, and as the counts of a signature check. -/
theorem simulate_interchangeable_counts :
    List.Forall₂ Step.SameNumbers
      (simulate .placeholder [.marker "SIG", .op .num1, .int 0, .op .pick, .op .ifDup, .op .verify,
        .op .verify, .marker "PK", .int 1, .op .checkMultisig]).steps
      (simulate .placeholder [.marker "SIG", .int 1, .op .num0, .op .pick, .op .ifDup, .op .verify,
        .op .verify, .marker "PK", .op .num1, .op .checkMultisig]).steps ∧
    (simulate .placeholder [.marker "SIG", .op .num1, .int 0, .op .pick, .op .ifDup, .op .verify,
      .op .verify, .marker "PK", .int 1, .op .checkMultisig]).valid = true := by
  have h : List.Forall₂ Instruction.Interchangeable
      [.marker "SIG", .op .num1, .int 0, .op .pick, .op .ifDup, .op .verify, .op .verify, .marker "PK",
        .int 1, .op .checkMultisig]
      [.marker "SIG", .int 1, .op .num0, .op .pick, .op .ifDup, .op .verify, .op .verify, .marker "PK",
        .op .num1, .op .checkMultisig] :=
    .cons (.refl _) (.cons (.constant rfl) (.cons (.literal rfl) (.cons (.refl _) (.cons (.refl _)
      (.cons (.refl _) (.cons (.refl _) (.cons (.refl _) (.cons (.literal rfl)
        (.cons (.refl _) .nil)))))))))
  obtain ⟨hsteps, hvalid⟩ := simulate_interchangeable _ _ h (by decide) (by decide)
  refine ⟨hsteps, hvalid.trans ?_⟩
  decide +kernel

end ScriptTrace
