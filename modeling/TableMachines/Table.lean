import TableMachines.Error

/-!
# Tables

A table is a rectangle of cells, kept row after row in one array. It is built from rows, from cells
in row order, from a vector of vectors or from a function, and the builders refuse data that is no
rectangle. `get` refuses indices outside the rectangle, the row before the column; in particular a
column past the end never reads a cell of a later row.
-/

namespace TableMachines

/-- A rectangle of cells in row order. -/
structure Table (α : Type) where
  rows : Nat
  cols : Nat
  cells : Array α
  size_cells : cells.size = rows * cols
  deriving DecidableEq, Repr

/-- The place of a cell in row order is below the number of cells. -/
theorem index_lt {rows cols row col : Nat} (hr : row < rows) (hc : col < cols) :
    row * cols + col < rows * cols :=
  calc row * cols + col < row * cols + cols := Nat.add_lt_add_left hc _
    _ = (row + 1) * cols := (Nat.succ_mul row cols).symm
    _ ≤ rows * cols := Nat.mul_le_mul_right cols hr

theorem length_flatten_of_forall {α : Type} {rows : List (List α)} {cols : Nat}
    (h : ∀ row ∈ rows, row.length = cols) : rows.flatten.length = rows.length * cols := by
  induction rows with
  | nil => simp
  | cons row rows ih =>
    rw [List.flatten_cons, List.length_append, List.length_cons, Nat.succ_mul,
      ih fun r hr => h r (List.mem_cons_of_mem _ hr), h row List.mem_cons_self, Nat.add_comm]

namespace Table

variable {α : Type}

/-- The places of a rectangle in row order. -/
def places (rows cols : Nat) : List (Nat × Nat) :=
  (List.range rows).flatMap fun row => (List.range cols).map fun col => (row, col)

theorem mem_places_iff {rows cols row col : Nat} :
    (row, col) ∈ places rows cols ↔ row < rows ∧ col < cols := by
  simp [places]

/-- The cell at a row and a column inside the rectangle. -/
def cell (t : Table α) (row col : Nat) (hr : row < t.rows) (hc : col < t.cols) : α :=
  have : row * t.cols + col < t.cells.size := t.size_cells ▸ index_lt hr hc
  t.cells[row * t.cols + col]

/-- The cell at a row and a column, if they are inside the rectangle. -/
def get? (t : Table α) (row col : Nat) : Option α :=
  if h : row < t.rows ∧ col < t.cols then some (t.cell row col h.1 h.2) else none

/-- The cell at a row and a column; a row outside the rectangle is refused first, then a column. -/
def get (t : Table α) (row col : Nat) : Except MachineError α :=
  if hr : row < t.rows then
    if hc : col < t.cols then .ok (t.cell row col hr hc)
    else .error (.outOfRange col t.cols)
  else .error (.outOfRange row t.rows)

/-- The cells of a row, if there is such a row. -/
def row? (t : Table α) (row : Nat) : Option (Array α) :=
  if row < t.rows then some (t.cells.extract (row * t.cols) ((row + 1) * t.cols)) else none

/-- The cells in row order. -/
def toList (t : Table α) : List α := t.cells.toList

/-- What is wrong with the first row that has not `cols` cells. -/
def raggedFault? (cols : Nat) (rows : List (List α)) : Option BuildError :=
  rows.zipIdx.findSome? fun (row, index) =>
    if row.length = cols then none else some (.raggedRows index cols row.length)

theorem length_eq_of_raggedFault?_eq_none {cols : Nat} {rows : List (List α)}
    (h : raggedFault? cols rows = none) : ∀ row ∈ rows, row.length = cols := by
  intro row hrow
  obtain ⟨index, hindex⟩ := List.mem_iff_getElem?.1 hrow
  have := List.findSome?_eq_none_iff.1 h (row, index) (List.mk_mem_zipIdx_iff_getElem?.2 hindex)
  simpa using this

/-- The table with the given rows. The first row decides the number of columns, and every row has to
have as many cells; no rows at all make the table without rows and columns. -/
def ofRows (rows : List (List α)) : Except BuildError (Table α) :=
  let cols := (rows.head?.map List.length).getD 0
  match h : raggedFault? cols rows with
  | some fault => .error fault
  | none =>
    .ok {
      rows := rows.length
      cols := cols
      cells := rows.flatten.toArray
      size_cells := length_flatten_of_forall (length_eq_of_raggedFault?_eq_none h) }

/-- The table with the given dimensions and cells in row order. When their number does not fit, the
error tells how many full rows there are. -/
def ofFlat (rows cols : Nat) (cells : Array α) : Except BuildError (Table α) :=
  if h : cells.size = rows * cols then .ok ⟨rows, cols, cells, h⟩
  else .error (.tableShape rows cols (if cols = 0 then 0 else cells.size / cols) cols)

/-- The table whose rows are the given vectors. -/
def ofVectors {rows cols : Nat} (cells : Vector (Vector α cols) rows) : Table α :=
  ⟨rows, cols, cells.flatten.toArray, cells.flatten.size_toArray⟩

/-- The table of the given dimensions that holds the value of `f` at each row and column. -/
def ofFn (rows cols : Nat) (f : Nat → Nat → α) : Table α where
  rows := rows
  cols := cols
  cells := Array.ofFn fun i : Fin (rows * cols) => f (i / cols) (i % cols)
  size_cells := Array.size_ofFn

theorem get_eq_ok_iff (t : Table α) (row col : Nat) (a : α) :
    t.get row col = .ok a ↔ t.get? row col = some a := by
  unfold get get?
  by_cases hr : row < t.rows <;> by_cases hc : col < t.cols <;> simp [hr, hc]

/-- Inside the rectangle the indices need no check, and the cell is read as it is. -/
theorem get_of_lt (t : Table α) {row col : Nat} (hr : row < t.rows) (hc : col < t.cols) :
    t.get row col = .ok (t.cell row col hr hc) := by
  simp [get, hr, hc]

theorem get_of_rows_le {t : Table α} {row : Nat} (h : t.rows ≤ row) (col : Nat) :
    t.get row col = .error (.outOfRange row t.rows) := by
  simp [get, Nat.not_lt.2 h]

theorem get_of_cols_le {t : Table α} {row col : Nat} (hr : row < t.rows) (hc : t.cols ≤ col) :
    t.get row col = .error (.outOfRange col t.cols) := by
  simp [get, hr, Nat.not_lt.2 hc]

theorem get?_of_lt (t : Table α) {row col : Nat} (hr : row < t.rows) (hc : col < t.cols) :
    t.get? row col = some (t.cell row col hr hc) := by
  simp [get?, hr, hc]

theorem isSome_get?_iff (t : Table α) (row col : Nat) :
    (t.get? row col).isSome ↔ row < t.rows ∧ col < t.cols := by
  by_cases h : row < t.rows ∧ col < t.cols <;> simp [get?, h]

theorem get?_eq_some_iff (t : Table α) (row col : Nat) (a : α) :
    t.get? row col = some a ↔
      row < t.rows ∧ col < t.cols ∧ t.cells[row * t.cols + col]? = some a := by
  constructor
  · intro h
    obtain ⟨hr, hc⟩ := (t.isSome_get?_iff row col).1 (by rw [h]; rfl)
    refine ⟨hr, hc, ?_⟩
    have hlt : row * t.cols + col < t.cells.size := t.size_cells ▸ index_lt hr hc
    rw [t.get?_of_lt hr hc, Option.some.injEq] at h
    rw [Array.getElem?_eq_getElem hlt, ← h]
    rfl
  · rintro ⟨hr, hc, h⟩
    have hlt : row * t.cols + col < t.cells.size := t.size_cells ▸ index_lt hr hc
    rw [t.get?_of_lt hr hc, ← h, Array.getElem?_eq_getElem hlt]
    rfl

theorem get?_ofFn {rows cols row col : Nat} (f : Nat → Nat → α) (hr : row < rows)
    (hc : col < cols) : (ofFn rows cols f).get? row col = some (f row col) := by
  rw [get?_eq_some_iff]
  refine ⟨hr, hc, ?_⟩
  have hdiv : (row * cols + col) / cols = row := by
    rw [Nat.mul_comm, Nat.mul_add_div (by omega), Nat.div_eq_of_lt hc, Nat.add_zero]
  have hmod : (row * cols + col) % cols = col := by
    rw [Nat.mul_comm, Nat.mul_add_mod, Nat.mod_eq_of_lt hc]
  simp only [ofFn, Array.getElem?_ofFn, index_lt hr hc, ↓reduceDIte, hdiv, hmod]

end Table

end TableMachines
