import Mathlib.Data.List.Basic
import ScriptTrace.Proofs.Effect.Pairs
import ScriptTrace.Proofs.Multisig.Operands
import ScriptTrace.Proofs.Provenance
import ScriptTrace.Proofs.Source.Reading

/-!
# Multiple checks in written scripts

Of the markers only two can be written, one signature and one key, and no operation makes others. So wherever a written script comes to a multiple check, all its keys are one item and so are all its signatures. Pairs are counted by value: there is one pair at most. For the placeholder verifier that pair verifies, so the check passes if it asks for one signature or none, and never if it asks for more.
-/

namespace ScriptTrace

open Stack (ofList)

/-! ### Keys and signatures among the reserved markers -/

namespace Verifier

variable {item : Instruction} (hreserved : ∀ text, item = .marker text → text ∈ reservedMarkers)

include hreserved

theorem eq_pubkey_of_isPubkey (h : placeholder.isPubkey item = true) : item = .marker "PUBKEY" := by
  cases item with
  | int n => cases h
  | op code => cases h
  | marker text =>
      have htext := hreserved text rfl
      simp only [reservedMarkers, List.mem_cons, List.not_mem_nil, or_false] at htext
      rcases htext with rfl | rfl
      · exact absurd h (by decide)
      · rfl

theorem eq_signature_of_isSignature (h : placeholder.isSignature item = true) :
    item = .marker "SIGNATURE" := by
  cases item with
  | int n => cases h
  | op code => cases h
  | marker text =>
      have htext := hreserved text rfl
      simp only [reservedMarkers, List.mem_cons, List.not_mem_nil, or_false] at htext
      rcases htext with rfl | rfl
      · rfl
      · exact absurd h (by decide)

end Verifier

/-- However often they occur, one signature and one key make one pair. -/
theorem length_verifiedPairs_replicate {m k : Nat} (h : m ≤ k) :
    (Effect.verifiedPairs .placeholder (List.replicate m (.marker "SIGNATURE"))
      (List.replicate k (.marker "PUBKEY"))).length = min m 1 := by
  cases m with
  | zero => rfl
  | succ m =>
      obtain ⟨k, rfl⟩ : ∃ n, k = n + 1 := ⟨k - 1, by omega⟩
      rw [Effect.verifiedPairs, eraseDups_replicate_succ, eraseDups_replicate_succ,
        Nat.min_eq_right (by omega)]
      decide

/-! ### Verdicts -/

namespace MultisigOperands

variable (o : MultisigOperands .placeholder)
  (hreserved : ∀ text, .marker text ∈ o.stack → text ∈ reservedMarkers)

include hreserved

theorem pubkeys_eq_replicate : o.pubkeys = List.replicate o.pubkeys.length (.marker "PUBKEY") := by
  refine List.eq_replicate_of_mem fun key hkey => ?_
  refine Verifier.eq_pubkey_of_isPubkey ?_ (o.isPubkey_of_mem key hkey)
  rintro text rfl
  apply hreserved
  simp [stack, hkey]

theorem signatures_eq_replicate :
    o.signatures = List.replicate o.signatures.length (.marker "SIGNATURE") := by
  refine List.eq_replicate_of_mem fun signature hsignature => ?_
  refine Verifier.eq_signature_of_isSignature ?_ (o.isSignature_of_mem signature hsignature)
  rintro text rfl
  apply hreserved
  simp [stack, hsignature]

theorem verified_eq_min : o.verified = min o.signatures.length 1 := by
  rw [verified, o.pubkeys_eq_replicate hreserved, o.signatures_eq_replicate hreserved,
    length_verifiedPairs_replicate o.length_le, List.length_replicate]

theorem passes_eq_decide : o.passes = decide (o.signatures.length ≤ 1) := by
  rw [passes, o.verified_eq_min hreserved, decide_eq_decide]
  omega

end MultisigOperands

/-- The step of a test that was carried out. It fails if the test is enforced and did not pass; if not, it pushes whether the test passed. -/
def Step.ofVerdict (script rest : List Instruction) (op : Opcode) (check : Check)
    (passed enforced : Bool) : Step :=
  if enforced && !passed then .ofFailure script (ofList rest) (.verifyFailed op check)
  else .ofReport script (ofList (.ofBool passed :: rest)) (.tested op check passed enforced)

theorem Step.ofResult_conclude (script rest : List Instruction) (op : Opcode) (check : Check)
    (passed enforced : Bool) :
    ofResult script (Effect.conclude op check passed enforced (ofList rest)) =
      ofVerdict script rest op check passed enforced := by
  cases passed <;> cases enforced <;> simp [Effect.conclude, ofVerdict, ofResult]

theorem mem_reservedMarkers_of_mem_stack {v : Verifier} {raw : String} {script : List Instruction}
    (hread : readScript raw = .ok script) {k : Nat} {step : Step}
    (hstep : (simulate v script).steps[k]? = some step) {text : String}
    (hmem : .marker text ∈ step.stack) : text ∈ reservedMarkers := by
  cases stemsFrom_of_mem_stack hstep hmem with
  | marker htake => exact mem_reservedMarkers_of_readScript hread (List.mem_of_mem_take htake)

/-- **Multiple checks in written scripts.** In the run of a text that is accepted, take a step after which one of the two multiple checks comes next. If the stack can be taken apart as the check asks, the next step records a verdict, and this is that the check passed exactly if it asked for one signature at most: with two or more it never passes. On any other stack the next step is a failure without a verdict. -/
theorem run_checkMultisig_verdict (limit : Nat) (raw : String) (trace : Trace)
    (hrun : run .placeholder limit raw = .ok trace) (k : Nat) (before after : Step) (op : Opcode)
    (hop : op = .checkMultisig ∨ op = .checkMultisigVerify)
    (hbefore : trace.steps[k]? = some before) (hnext : before.script.head? = some (.op op))
    (hafter : trace.steps[k + 1]? = some after) :
    (∀ o : MultisigOperands .placeholder, before.stack = o.stack →
      after = .ofVerdict before.script.tail o.rest op
        (.multisig (min o.signatures.length 1) o.signatures.length o.pubkeys.length)
        (decide (o.signatures.length ≤ 1)) (op == .checkMultisigVerify)) ∧
    ((¬ ∃ o : MultisigOperands .placeholder, before.stack = o.stack) → ∃ failure t,
      after = .ofFailure before.script.tail t failure ∧ failure.isVerdict = false) := by
  obtain ⟨script, hread, rfl⟩ := exists_script_of_run hrun
  obtain ⟨i, rest, hscript, rfl⟩ := exists_of_consecutive_steps hbefore hafter
  rw [hscript] at hnext
  cases hnext
  have hoperation : op.operation? = some (.checkMultisig (op == .checkMultisigVerify)) := by
    rcases hop with rfl | rfl <;> rfl
  rw [hscript, List.tail_cons, Instruction.execute_op]
  constructor
  · intro o hstack
    have hreserved : ∀ text, .marker text ∈ o.stack → text ∈ reservedMarkers := by
      intro text htext
      rw [← hstack] at htext
      exact mem_reservedMarkers_of_mem_stack hread hbefore htext
    rw [hstack, Opcode.execute_multisigOperands hoperation o, Step.ofResult_conclude,
      MultisigOperands.check, o.verified_eq_min hreserved, o.passes_eq_decide hreserved]
  · intro hnone
    rcases Opcode.exists_operands_or_execute_error hoperation before.stack with
      hsome | ⟨failure, t, hexecute, hverdict⟩
    · exact absurd hsome hnone
    · rw [hexecute]
      exact ⟨failure, t, rfl, hverdict⟩

/-- Two signatures among two keys, all of them written. -/
def MultisigOperands.twoOfTwo : MultisigOperands .placeholder where
  pubkeyCount := .int 2
  pubkeys := [.marker "PUBKEY", .marker "PUBKEY"]
  signatureCount := .op .num2
  signatures := [.marker "SIGNATURE", .marker "SIGNATURE"]
  rest := [.int 7]
  pubkeyCount_eq := rfl
  signatureCount_eq := rfl
  isPubkey_of_mem := by decide
  isSignature_of_mem := by decide
  length_le := by decide

/-- One pair is not enough for two signatures. -/
theorem run_checkMultisig_twoOfTwo :
    ∃ before after trace,
      run .placeholder defaultLimit "7 SIGNATURE SIGNATURE OP_2 PUBKEY PUBKEY 2 OP_CHECKMULTISIG" =
        .ok trace ∧
      trace.steps[7]? = some before ∧ trace.steps[8]? = some after ∧
      before.stack = MultisigOperands.twoOfTwo.stack ∧ after.stack = [.int 0, .int 7] ∧
      after = .ofVerdict [] [.int 7] .checkMultisig (.multisig 1 2 2) false false := by
  have hrun : run .placeholder defaultLimit
      "7 SIGNATURE SIGNATURE OP_2 PUBKEY PUBKEY 2 OP_CHECKMULTISIG" =
        .ok (simulate .placeholder [.int 7, .marker "SIGNATURE", .marker "SIGNATURE", .op .num2,
          .marker "PUBKEY", .marker "PUBKEY", .int 2, .op .checkMultisig]) := by
    decide +kernel
  have hbefore : (simulate .placeholder [.int 7, .marker "SIGNATURE", .marker "SIGNATURE",
      .op .num2, .marker "PUBKEY", .marker "PUBKEY", .int 2, .op .checkMultisig]).steps[7]? =
        some ⟨[.op .checkMultisig], MultisigOperands.twoOfTwo.stack, "Pushed <2> to stack", false,
          .push⟩ := by
    decide +kernel
  have hafter : (simulate .placeholder [.int 7, .marker "SIGNATURE", .marker "SIGNATURE",
      .op .num2, .marker "PUBKEY", .marker "PUBKEY", .int 2, .op .checkMultisig]).steps[8]? =
        some ⟨[], [.int 0, .int 7], "Performed CHECKMULTISIG; 1 distinct verified pairs, 2 required, from 2 signatures and 2 pubkeys; Checkmultisig failed; Pushed <0> to stack",
          false, .executed⟩ := by
    decide +kernel
  have hverdict := (run_checkMultisig_verdict defaultLimit _ _ hrun 7 _ _ .checkMultisig
    (.inl rfl) hbefore rfl hafter).1 .twoOfTwo rfl
  exact ⟨_, _, _, hrun, hbefore, hafter, rfl, rfl, hverdict⟩

end ScriptTrace
