import Mathlib.Logic.Basic
import ScriptTrace.Proofs.Effect.Listed
import ScriptTrace.Trace.Basic

/-!
# Outcomes of effects

A judgment about a computation on a given stack, with one condition for the case that it succeeds and one for the case that it fails. A composite computation is judged from its parts by `Ensures.bind`, so a proof about an operation follows the operation line by line. As a first use, an opcode that its family carries out reports that it was executed: no family reports a literal or an opcode without meaning.
-/

namespace ScriptTrace

namespace StackM

variable {α β : Type} {s : Stack}

/-- Either the computation succeeds, and `ok` holds of its value and of the stack then; or it fails, and `error` holds of the failure and of the stack then. -/
def Ensures (x : StackM α) (s : Stack) (ok : α → Stack → Prop)
    (error : Failure → Stack → Prop) : Prop :=
  match x s with
  | .ok a t => ok a t
  | .error failure t => error failure t

theorem Ensures.of_ok {x : StackM α} {ok : α → Stack → Prop} {error : Failure → Stack → Prop}
    {a : α} {t : Stack} (h : x.Ensures s ok error) (hx : x s = .ok a t) : ok a t := by
  rw [Ensures, hx] at h
  exact h

theorem Ensures.of_error {x : StackM α} {ok : α → Stack → Prop} {error : Failure → Stack → Prop}
    {failure : Failure} {t : Stack} (h : x.Ensures s ok error) (hx : x s = .error failure t) :
    error failure t := by
  rw [Ensures, hx] at h
  exact h

theorem Ensures.mono {x : StackM α} {ok ok' : α → Stack → Prop} {error : Failure → Stack → Prop}
    (h : x.Ensures s ok error) (hok : ∀ a t, ok a t → ok' a t) : x.Ensures s ok' error := by
  rw [Ensures]
  cases hx : x s with
  | ok a t => exact hok a t (h.of_ok hx)
  | error failure t => exact h.of_error hx

theorem Ensures.bind {x : StackM α} {f : α → StackM β} {between : α → Stack → Prop}
    {ok : β → Stack → Prop} {error : Failure → Stack → Prop} (hx : x.Ensures s between error)
    (hf : ∀ a t, between a t → (f a).Ensures t ok error) : (x >>= f).Ensures s ok error := by
  rw [Ensures, bind_apply]
  cases h : x s with
  | ok a t => exact hf a t (hx.of_ok h)
  | error failure t => exact hx.of_error h

/-! ### Values alone -/

/-- If the computation succeeds, whatever the stack, its value has the property. -/
def Yields (x : StackM α) (p : α → Prop) : Prop :=
  ∀ s, x.Ensures s (fun a _ => p a) fun _ _ => True

theorem Yields.bind_of_yields {x : StackM α} {f : α → StackM β} {p : α → Prop} {q : β → Prop}
    (hx : x.Yields p) (hf : ∀ a, p a → (f a).Yields q) : (x >>= f).Yields q :=
  fun s => (hx s).bind fun a t ha => hf a ha t

theorem Yields.top (x : StackM α) : x.Yields fun _ => True := by
  intro s
  rw [Ensures]
  cases x s <;> trivial

theorem Yields.bind {x : StackM α} {f : α → StackM β} {p : β → Prop} (h : ∀ a, (f a).Yields p) :
    (x >>= f).Yields p :=
  (Yields.top x).bind_of_yields fun a _ => h a

theorem Yields.pure {a : α} {p : α → Prop} (h : p a) : (Pure.pure a : StackM α).Yields p :=
  fun _ => h

theorem Yields.throw {failure : Failure} {p : α → Prop} :
    (MonadExcept.throw failure : StackM α).Yields p := fun _ => trivial

end StackM

/-! ### What the families report -/

namespace Effect

open StackM

/-- The report of an opcode that has a meaning. -/
def Executed (report : Report) : Prop := report.kind = .executed

theorem unary_yields (op : Opcode) : (unary op).Yields Executed := by
  refine .bind fun x => ?_
  split
  · exact .bind fun _ => .pure rfl
  · exact .throw

theorem binary_yields (op : Opcode) : (binary op).Yields Executed := by
  refine .bind fun a => .bind fun b => ?_
  split
  · exact .bind fun _ => .pure rfl
  · split
    · exact .bind fun _ => .pure rfl
    · exact .throw
  · exact .throw

theorem within_yields (op : Opcode) : (within op).Yields Executed :=
  .bind fun _ => .bind fun _ => .bind fun _ => .bind fun _ => .pure rfl

theorem rearrange_yields (op : Opcode) : (rearrange op).Yields Executed := by
  rw [rearrange]
  split
  · exact .bind fun _ => .pure rfl
  · exact .throw

theorem equal_yields (op : Opcode) : (equal op).Yields Executed := by
  refine .bind fun a => .bind fun b => .bind fun _ => ?_
  dsimp only
  split
  · exact .bind fun _ => .pure rfl
  · exact .pure rfl

theorem verify_yields (op : Opcode) : (verify op).Yields Executed := by
  refine .bind fun a => ?_
  split
  · exact .pure rfl
  · exact .throw

theorem conclude_yields (op : Opcode) (check : Check) (passed enforced : Bool) :
    (conclude op check passed enforced).Yields Executed := by
  rw [conclude]
  split
  · exact .bind fun _ => .bind fun _ => .pure rfl
  · exact .bind fun _ => .pure rfl

theorem checkSignatures_yields (v : Verifier) (op : Opcode) :
    (checkSignatures v op).Yields Executed := by
  rw [checkSignatures]
  split
  · exact .bind fun _ => .bind fun _ => conclude_yields op _ _ _
  · exact .bind fun _ => .bind fun _ => conclude_yields op _ _ _
  · exact .throw

end Effect

theorem Family.run_yields (v : Verifier) (op : Opcode) (family : Family) :
    (family.run v op).Yields Effect.Executed := by
  cases family with
  | unaryArithmetic => exact Effect.unary_yields op
  | binaryArithmetic => exact Effect.binary_yields op
  | within => exact Effect.within_yields op
  | stackManipulation => exact Effect.rearrange_yields op
  | equality => exact Effect.equal_yields op
  | verify => exact Effect.verify_yields op
  | signature => exact Effect.checkSignatures_yields v op

end ScriptTrace
