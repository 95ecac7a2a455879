import ScriptTrace.Stack.Basic

/-!
# The stack as a list

Every stack is `ofList` of its items from the top down, and every operation on `ofList l` is the evident operation on `l`. Reasoning about a run happens on these lists; the array is not looked at again.
-/

namespace ScriptTrace.Stack

@[simp] theorem toList_ofList (l : List Instruction) : (ofList l).toList = l := by
  simp [ofList, toList]

@[simp] theorem ofList_toList (s : Stack) : ofList s.toList = s := by
  simp [ofList, toList]

theorem exists_eq_ofList (s : Stack) : ∃ l, s = ofList l :=
  ⟨s.toList, (ofList_toList s).symm⟩

theorem empty_eq : empty = ofList [] := rfl

@[simp] theorem size_ofList (l : List Instruction) : (ofList l).size = l.length := by
  simp [ofList, size]

@[simp] theorem length_toList (s : Stack) : s.toList.length = s.size := by
  simp [toList, size]

@[simp] theorem isEmpty_ofList (l : List Instruction) : (ofList l).isEmpty = l.isEmpty := by
  cases l <;> simp [ofList, isEmpty]

@[simp] theorem push_ofList (l : List Instruction) (x : Instruction) :
    (ofList l).push x = ofList (x :: l) := by
  simp [ofList, push]

@[simp] theorem top?_ofList (l : List Instruction) : (ofList l).top? = l.head? := by
  simp [ofList, top?]

@[simp] theorem pop_ofList (l : List Instruction) : (ofList l).pop = (l.head?, ofList l.tail) := by
  cases l <;> simp [ofList, pop]

@[simp] theorem pop?_ofList_nil : (ofList []).pop? = none := rfl

@[simp] theorem pop?_ofList_cons (x : Instruction) (l : List Instruction) :
    (ofList (x :: l)).pop? = some (x, ofList l) := by
  simp [pop?]

private theorem getElem_reverse_of_lt {l : List Instruction} {d : Nat} (h : d < l.length)
    (hr : l.length - 1 - d < l.reverse.length) : l.reverse[l.length - 1 - d] = l[d] := by
  apply Option.some.inj
  rw [← List.getElem?_eq_getElem, ← List.getElem?_eq_getElem, List.getElem?_reverse (by omega),
    show l.length - 1 - (l.length - 1 - d) = d by omega]

@[simp] theorem peek?_ofList (l : List Instruction) (d : Nat) : (ofList l).peek? d = l[d]? := by
  by_cases h : d < l.length
  · simp [ofList, peek?, h, -List.getElem_reverse, getElem_reverse_of_lt]
  · simp [ofList, peek?, h]

private theorem eraseIdx_reverse_of_lt {l : List Instruction} {d : Nat} (h : d < l.length) :
    l.reverse.eraseIdx (l.length - 1 - d) = (l.eraseIdx d).reverse := by
  rw [List.eraseIdx_eq_take_drop_succ, List.eraseIdx_eq_take_drop_succ, List.reverse_append,
    List.take_reverse, List.drop_reverse]
  rw [show l.length - (l.length - 1 - d) = d + 1 by omega,
    show l.length - (l.length - 1 - d + 1) = d by omega]

private theorem insertIdx_length_append (a b : List Instruction) (x : Instruction) :
    (a ++ b).insertIdx a.length x = a ++ x :: b := by
  induction a with
  | nil => rfl
  | cons y a ih => rw [List.cons_append, List.length_cons, List.insertIdx_succ_cons, ih, List.cons_append]

private theorem insertIdx_reverse_of_le {l : List Instruction} {d : Nat} (x : Instruction)
    (h : d ≤ l.length) : l.reverse.insertIdx (l.length - d) x = (l.insertIdx d x).reverse := by
  have hleft := insertIdx_length_append (l.drop d).reverse (l.take d).reverse x
  have hright := insertIdx_length_append (l.take d) (l.drop d) x
  rw [← List.reverse_append, List.take_append_drop, List.length_reverse, List.length_drop] at hleft
  rw [List.take_append_drop, List.length_take, Nat.min_eq_left h] at hright
  rw [hleft, hright, List.reverse_append, List.reverse_cons, List.append_assoc, List.singleton_append]

private theorem set_reverse_of_lt {l : List Instruction} {d : Nat} (x : Instruction)
    (h : d < l.length) : l.reverse.set (l.length - 1 - d) x = (l.set d x).reverse := by
  rw [List.set_eq_take_append_cons_drop, List.set_eq_take_append_cons_drop, if_pos h,
    if_pos (by rw [List.length_reverse]; omega), List.take_reverse, List.drop_reverse,
    List.reverse_append, List.reverse_cons, List.append_assoc, List.singleton_append]
  rw [show l.length - (l.length - 1 - d) = d + 1 by omega,
    show l.length - (l.length - 1 - d + 1) = d by omega]

@[simp] theorem remove_ofList (l : List Instruction) (d : Nat) :
    (ofList l).remove d = (l[d]?, ofList (l.eraseIdx d)) := by
  by_cases h : d < l.length
  · simp [ofList, remove, h, -List.getElem_reverse, getElem_reverse_of_lt, eraseIdx_reverse_of_lt]
  · have hle : l.length ≤ d := by omega
    simp [ofList, remove, h, List.eraseIdx_of_length_le hle]

@[simp] theorem remove?_ofList (l : List Instruction) (d : Nat) :
    (ofList l).remove? d = l[d]?.map fun x => (x, ofList (l.eraseIdx d)) := by
  simp [remove?]

@[simp] theorem insert_ofList (l : List Instruction) (d : Nat) (x : Instruction) :
    (ofList l).insert d x = (decide (d ≤ l.length), ofList (l.insertIdx d x)) := by
  by_cases h : d ≤ l.length
  · simp [ofList, insert, h, insertIdx_reverse_of_le]
  · have hlt : l.length < d := by omega
    simp [ofList, insert, h, List.insertIdx_of_length_lt hlt]

@[simp] theorem insert?_ofList (l : List Instruction) (d : Nat) (x : Instruction) :
    (ofList l).insert? d x = if d ≤ l.length then some (ofList (l.insertIdx d x)) else none := by
  simp [insert?]

@[simp] theorem swap_ofList (l : List Instruction) (d e : Nat) :
    (ofList l).swap d e =
      if h : d < l.length ∧ e < l.length then (true, ofList ((l.set d l[e]).set e l[d]))
      else (false, ofList l) := by
  by_cases h : d < l.length ∧ e < l.length
  · have hd := set_reverse_of_lt l[e] h.1
    have he := set_reverse_of_lt (l := l.set d l[e]) l[d] (by simpa using h.2)
    rw [List.length_set, ← hd] at he
    simp [ofList, swap, h, -List.getElem_reverse, getElem_reverse_of_lt, he]
  · simp [ofList, swap, h]

@[simp] theorem swap?_ofList (l : List Instruction) (d e : Nat) :
    (ofList l).swap? d e =
      if h : d < l.length ∧ e < l.length then some (ofList ((l.set d l[e]).set e l[d])) else none := by
  rw [swap?, swap_ofList]
  by_cases h : d < l.length ∧ e < l.length <;> simp [h]

end ScriptTrace.Stack
