import Mathlib.Logic.Equiv.Basic
import ScriptTrace.Stack.Lemmas

/-!
# The stack as an implementation of lists

Whoever uses a stack asks for things and gets answers. `Stack.perform` says what the stack does about a request, on the array that it is; `onList` says it for a plain list of the items, top first. A stack that holds the items of a list gives the same answer as the list to every request and holds the items of the new list after it, so no sequence of requests can tell the two apart. What is refused, because of a depth that there is not, changes nothing.
-/

namespace ScriptTrace.Stack

/-- What can be asked of a stack. -/
inductive Request where
  | push (item : Instruction)
  | pop
  | top
  | peek (depth : Nat)
  | remove (depth : Nat)
  | insert (depth : Nat) (item : Instruction)
  | swap (depth other : Nat)
  | size
  | isEmpty
  deriving DecidableEq

/-- What comes back. -/
inductive Answer where
  | done
  | item (found : Option Instruction)
  | flag (b : Bool)
  | count (n : Nat)
  deriving DecidableEq

/-! ### The two sides -/

/-- Meet a request. -/
def perform (s : Stack) : Request → Answer × Stack
  | .push item => (.done, s.push item)
  | .pop => s.pop.map .item id
  | .top => (.item s.top?, s)
  | .peek depth => (.item (s.peek? depth), s)
  | .remove depth => (s.remove depth).map .item id
  | .insert depth item => (s.insert depth item).map .flag id
  | .swap depth other => (s.swap depth other).map .flag id
  | .size => (.count s.size, s)
  | .isEmpty => (.flag s.isEmpty, s)

/-- The list with the items at two positions exchanged, if there are such. -/
def exchange (l : List Instruction) (d e : Nat) : List Instruction :=
  match l[d]?, l[e]? with
  | some x, some y => (l.set d y).set e x
  | _, _ => l

/-- The same requests to a list of items, top first. A list is left alone by what is asked about positions it does not have. -/
def onList (l : List Instruction) : Request → Answer × List Instruction
  | .push item => (.done, item :: l)
  | .pop => (.item l.head?, l.tail)
  | .top => (.item l.head?, l)
  | .peek depth => (.item l[depth]?, l)
  | .remove depth => (.item l[depth]?, l.eraseIdx depth)
  | .insert depth item => (.flag (depth ≤ l.length), l.insertIdx depth item)
  | .swap depth other => (.flag (depth < l.length ∧ other < l.length), exchange l depth other)
  | .size => (.count l.length, l)
  | .isEmpty => (.flag l.isEmpty, l)

/-- The answers to requests that are made one after the other, each with the state after it. -/
def answers {σ : Type} (step : σ → Request → Answer × σ) (s : σ) :
    List Request → List (Answer × σ)
  | [] => []
  | r :: rest => step s r :: answers step (step s r).2 rest

/-! ### Positions of a list -/

theorem exchange_of_lt {l : List Instruction} {d e : Nat} (hd : d < l.length) (he : e < l.length) :
    exchange l d e = (l.set d l[e]).set e l[d] := by
  rw [exchange, List.getElem?_eq_getElem hd, List.getElem?_eq_getElem he]

theorem exchange_of_not_lt {l : List Instruction} {d e : Nat}
    (h : ¬ (d < l.length ∧ e < l.length)) : exchange l d e = l := by
  rw [exchange]
  split
  · rename_i x y hx hy
    exact absurd ⟨(List.getElem?_eq_some_iff.mp hx).1, (List.getElem?_eq_some_iff.mp hy).1⟩ h
  · rfl

/-- Afterwards each position has the item of the position it is exchanged with. -/
theorem getElem?_exchange {l : List Instruction} {d e : Nat} (hd : d < l.length) (he : e < l.length)
    (k : Nat) : (exchange l d e)[k]? = l[Equiv.swap d e k]? := by
  rw [exchange_of_lt hd he, List.getElem?_set, List.getElem?_set]
  by_cases hke : e = k
  · subst hke
    rw [Equiv.swap_apply_right]
    simp [hd, he]
  · by_cases hkd : d = k
    · subst hkd
      rw [Equiv.swap_apply_left]
      simp [hke, hd, he]
    · rw [Equiv.swap_apply_of_ne_of_ne (Ne.symm hkd) (Ne.symm hke)]
      simp [hke, hkd]

/-! ### Refinement -/

/-- One request: the stack answers as the list does, and goes on with the items of the list. -/
theorem perform_ofList (l : List Instruction) (r : Request) :
    (ofList l).perform r = Prod.map id ofList (onList l r) := by
  cases r with
  | push item => simp [perform, onList]
  | pop => simp [perform, onList]
  | top => simp [perform, onList]
  | peek depth => simp [perform, onList]
  | remove depth => simp [perform, onList]
  | insert depth item => simp [perform, onList]
  | swap depth other =>
      rw [perform, swap_ofList]
      by_cases h : depth < l.length ∧ other < l.length
      · simp [h, onList, exchange_of_lt h.1 h.2]
      · simp [h, onList, exchange_of_not_lt h]
  | size => simp [perform, onList]
  | isEmpty => simp [perform, onList]

theorem map_perform (s : Stack) (r : Request) :
    Prod.map id toList (s.perform r) = onList s.toList r := by
  obtain ⟨l, rfl⟩ := s.exists_eq_ofList
  rw [perform_ofList, toList_ofList]
  exact Prod.ext rfl (toList_ofList _)

/-- If single requests are met alike on what is seen of a state, then so are requests that follow each other. -/
theorem map_answers {σ τ : Type} {step : σ → Request → Answer × σ} {other : τ → Request → Answer × τ}
    {view : σ → τ} (h : ∀ s r, Prod.map id view (step s r) = other (view s) r) (s : σ)
    (requests : List Request) :
    (answers step s requests).map (Prod.map id view) = answers other (view s) requests := by
  induction requests generalizing s with
  | nil => rfl
  | cons r rest ih =>
      rw [answers, answers, List.map_cons, ih, ← h]
      rfl

/-! ### Single requests -/

theorem onList_of_refused {l : List Instruction} {r : Request}
    (h : (onList l r).1 = .item none ∨ (onList l r).1 = .flag false) : (onList l r).2 = l := by
  cases r with
  | push item => simp [onList] at h
  | pop =>
      have hl : l = [] := by simpa [onList] using h
      rw [hl, onList, List.tail_nil]
  | remove depth =>
      have hd : l.length ≤ depth := by simpa [onList] using h
      exact List.eraseIdx_of_length_le hd
  | insert depth item =>
      have hd : l.length < depth := by simpa [onList] using h
      exact List.insertIdx_of_length_lt hd
  | swap depth other =>
      have hd : ¬ (depth < l.length ∧ other < l.length) := by simpa [onList] using h
      exact exchange_of_not_lt hd
  | top => rfl
  | peek depth => rfl
  | size => rfl
  | isEmpty => rfl

section

variable {s : Stack} {d e : Nat} {x : Instruction}

theorem perform_of_refused {r : Request}
    (h : (s.perform r).1 = .item none ∨ (s.perform r).1 = .flag false) : (s.perform r).2 = s := by
  obtain ⟨l, rfl⟩ := s.exists_eq_ofList
  rw [perform_ofList] at h ⊢
  exact congrArg ofList (onList_of_refused h)

theorem perform_peek_eq_none_iff : (s.perform (.peek d)).1 = .item none ↔ s.size ≤ d := by
  obtain ⟨l, rfl⟩ := s.exists_eq_ofList
  simp [perform_ofList, onList]

theorem perform_remove_eq_none_iff : (s.perform (.remove d)).1 = .item none ↔ s.size ≤ d := by
  obtain ⟨l, rfl⟩ := s.exists_eq_ofList
  simp [perform_ofList, onList]

theorem perform_insert_eq_true_iff : (s.perform (.insert d x)).1 = .flag true ↔ d ≤ s.size := by
  obtain ⟨l, rfl⟩ := s.exists_eq_ofList
  simp [perform_ofList, onList]

/-- Taking out what was put in gives back the item and the stack. -/
theorem remove_perform_insert (hd : d ≤ s.size) :
    (s.perform (.insert d x)).2.remove d = (some x, s) := by
  obtain ⟨l, rfl⟩ := s.exists_eq_ofList
  rw [size_ofList] at hd
  rw [perform_ofList]
  change (ofList (l.insertIdx d x)).remove d = _
  rw [remove_ofList, List.getElem?_insertIdx_self, if_pos hd, List.eraseIdx_insertIdx_self]

theorem perform_swap_eq_true_iff :
    (s.perform (.swap d e)).1 = .flag true ↔ d < s.size ∧ e < s.size := by
  obtain ⟨l, rfl⟩ := s.exists_eq_ofList
  simp [perform_ofList, onList]

theorem peek?_perform_swap (hd : d < s.size) (he : e < s.size) (k : Nat) :
    (s.perform (.swap d e)).2.peek? k = s.peek? (Equiv.swap d e k) := by
  obtain ⟨l, rfl⟩ := s.exists_eq_ofList
  rw [size_ofList] at hd he
  rw [perform_ofList]
  change (ofList (exchange l d e)).peek? k = _
  rw [peek?_ofList, peek?_ofList, getElem?_exchange hd he]

end

/-- **A stack is a list.** Every sequence of requests to the stack of a list gets the answers that the list gives, and after each of them the stack holds the items of the list. Of a single request: what is answered by nothing or by false changes nothing; there is nothing to look at or to take out exactly at the depths from the size on; putting an item in works exactly at the depths up to the size, where it can be taken out again; and exchanging works exactly between two depths below the size, with no other depth touched. -/
theorem answers_refine_list (l : List Instruction) (requests : List Request) :
    (answers perform (ofList l) requests).map (Prod.map id toList) = answers onList l requests ∧
    (∀ (s : Stack) (r : Request),
      (s.perform r).1 = .item none ∨ (s.perform r).1 = .flag false → (s.perform r).2 = s) ∧
    (∀ (s : Stack) (d : Nat), ((s.perform (.peek d)).1 = .item none ↔ s.size ≤ d) ∧
      ((s.perform (.remove d)).1 = .item none ↔ s.size ≤ d)) ∧
    (∀ (s : Stack) (d : Nat) (x : Instruction),
      ((s.perform (.insert d x)).1 = .flag true ↔ d ≤ s.size) ∧
      (d ≤ s.size → (s.perform (.insert d x)).2.remove d = (some x, s))) ∧
    (∀ (s : Stack) (d e : Nat),
      ((s.perform (.swap d e)).1 = .flag true ↔ d < s.size ∧ e < s.size) ∧
      (d < s.size → e < s.size →
        ∀ k, (s.perform (.swap d e)).2.peek? k = s.peek? (Equiv.swap d e k))) := by
  refine ⟨?_, fun s r => perform_of_refused, fun s d => ?_, fun s d x => ?_, fun s d e => ?_⟩
  · rw [map_answers map_perform, toList_ofList]
  · exact ⟨perform_peek_eq_none_iff, perform_remove_eq_none_iff⟩
  · exact ⟨perform_insert_eq_true_iff, remove_perform_insert⟩
  · exact ⟨perform_swap_eq_true_iff, peek?_perform_swap⟩

/-- At and below the bottom: an item goes in as the last one, and further down there is nothing. -/
theorem answers_refine_list_bottom :
    (answers perform (ofList [.int 1, .int 2, .int 3]) [.insert 3 (.int 9), .remove 4, .swap 0 3,
        .pop, .insert 4 (.int 0)]).map (Prod.map id toList) =
      [(.flag true, [.int 1, .int 2, .int 3, .int 9]), (.item none, [.int 1, .int 2, .int 3, .int 9]),
        (.flag true, [.int 9, .int 2, .int 3, .int 1]), (.item (some (.int 9)), [.int 2, .int 3, .int 1]),
        (.flag false, [.int 2, .int 3, .int 1])] ∧
      ((ofList [.int 1]).perform (.swap 0 1)).2 = ofList [.int 1] := by
  obtain ⟨hanswers, hrefused, _⟩ := answers_refine_list [.int 1, .int 2, .int 3]
    [.insert 3 (.int 9), .remove 4, .swap 0 3, .pop, .insert 4 (.int 0)]
  exact ⟨hanswers.trans (by decide), hrefused _ _ (.inr (by decide))⟩

end ScriptTrace.Stack
