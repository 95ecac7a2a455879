import ScriptTrace.Instruction

/-!
# The stack

Items are kept in an array with the top at its end, so that pushing and popping touch nothing else. Positions count from the top: depth zero is the top itself. Depths are natural numbers without a largest one; that a depth given as a machine word could have no successor is left out of account. What is asked of a depth that there is not is refused: the answer says so, and it comes with the stack as it was. `Stack.toList` gives the items from the top down, and the file beside this one says what each operation does to that list.
-/

namespace ScriptTrace

/-- A stack of instructions, bottom first. -/
structure Stack where
  items : Array Instruction
  deriving DecidableEq

namespace Stack

def empty : Stack := ⟨#[]⟩

/-- The stack with the given items, top first. -/
def ofList (items : List Instruction) : Stack := ⟨items.reverse.toArray⟩

/-- The items, top first. -/
def toList (s : Stack) : List Instruction := s.items.toList.reverse

def size (s : Stack) : Nat := s.items.size

def isEmpty (s : Stack) : Bool := s.items.isEmpty

def push (s : Stack) (item : Instruction) : Stack := ⟨s.items.push item⟩

def top? (s : Stack) : Option Instruction := s.items.back?

def pop (s : Stack) : Option Instruction × Stack := (s.items.back?, ⟨s.items.pop⟩)

def peek? (s : Stack) (depth : Nat) : Option Instruction :=
  if h : depth < s.items.size then some s.items[s.items.size - 1 - depth] else none

/-- Take an item out from between the others. -/
def remove (s : Stack) (depth : Nat) : Option Instruction × Stack :=
  if h : depth < s.items.size then
    let index := s.items.size - 1 - depth
    (some s.items[index], ⟨s.items.eraseIdx index⟩)
  else
    (none, s)

/-- Slip an item in at a depth; at the depth `size` it goes below all the others. -/
def insert (s : Stack) (depth : Nat) (item : Instruction) : Bool × Stack :=
  if depth ≤ s.items.size then
    (true, ⟨s.items.insertIdx (s.items.size - depth) item (Nat.sub_le _ _)⟩)
  else
    (false, s)

/-- Let two items change places. -/
def swap (s : Stack) (depth other : Nat) : Bool × Stack :=
  if h : depth < s.items.size ∧ other < s.items.size then
    (true, ⟨s.items.swap (s.items.size - 1 - depth) (s.items.size - 1 - other)⟩)
  else
    (false, s)

/-! ### For computations that end where they are refused -/

def pop? (s : Stack) : Option (Instruction × Stack) :=
  let (item?, rest) := s.pop
  item?.map fun item => (item, rest)

def remove? (s : Stack) (depth : Nat) : Option (Instruction × Stack) :=
  let (item?, rest) := s.remove depth
  item?.map fun item => (item, rest)

def insert? (s : Stack) (depth : Nat) (item : Instruction) : Option Stack :=
  let (done, changed) := s.insert depth item
  if done then some changed else none

def swap? (s : Stack) (depth other : Nat) : Option Stack :=
  let (done, changed) := s.swap depth other
  if done then some changed else none

end Stack

end ScriptTrace
