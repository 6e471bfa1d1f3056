import TableMachines.Error

/-!
# Columns

A column is a one-dimensional table: a fixed list of entries, read by index. Machines keep one flag
per state or letter in a column. `get` refuses an index past the end and names it.
-/

namespace TableMachines

/-- A one-dimensional table. -/
structure Column (α : Type) where
  entries : Array α
  deriving DecidableEq, Repr

namespace Column

variable {α : Type}

/-- The column with the entries of a list. -/
def ofList (entries : List α) : Column α := ⟨entries.toArray⟩

/-- The column with the entries of a vector. -/
def ofVector {n : Nat} (entries : Vector α n) : Column α := ⟨entries.toArray⟩

/-- The column with `n` entries whose entry at an index is the value of `f` there. -/
def ofFn (n : Nat) (f : Nat → α) : Column α := ⟨Array.ofFn fun i : Fin n => f i⟩

/-- The number of entries. -/
def size (c : Column α) : Nat := c.entries.size

/-- Tells whether there are no entries. -/
def isEmpty (c : Column α) : Bool := c.entries.isEmpty

/-- The entries in the order of their indices. -/
def toList (c : Column α) : List α := c.entries.toList

/-- The entry at an index, if there is one. -/
def get? (c : Column α) (index : Nat) : Option α := c.entries[index]?

/-- The entry at an index; an index past the end is refused. -/
def get (c : Column α) (index : Nat) : Except MachineError α :=
  match c.get? index with
  | some entry => .ok entry
  | none => .error (.outOfRange index c.size)

@[simp]
theorem size_ofFn (n : Nat) (f : Nat → α) : (ofFn n f).size = n := by
  simp [size, ofFn]

@[simp]
theorem toList_ofList (entries : List α) : (ofList entries).toList = entries := rfl

theorem get?_eq_getElem? (c : Column α) (index : Nat) : c.get? index = c.toList[index]? := by
  simp [get?, toList]

theorem get?_ofFn {n index : Nat} (f : Nat → α) (h : index < n) :
    (ofFn n f).get? index = some (f index) := by
  simp [get?, ofFn, h]

theorem get?_eq_none_iff (c : Column α) (index : Nat) : c.get? index = none ↔ c.size ≤ index := by
  simp [get?, size]

theorem exists_get?_eq_some {c : Column α} {index : Nat} (h : index < c.size) :
    ∃ entry, c.get? index = some entry :=
  ⟨_, Array.getElem?_eq_getElem h⟩

theorem get_eq_ok_iff (c : Column α) (index : Nat) (entry : α) :
    c.get index = .ok entry ↔ c.get? index = some entry := by
  unfold get
  split <;> simp_all

theorem get_of_le {c : Column α} {index : Nat} (h : c.size ≤ index) :
    c.get index = .error (.outOfRange index c.size) := by
  rw [get, (c.get?_eq_none_iff index).2 h]

end Column

end TableMachines
