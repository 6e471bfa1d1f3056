import TableMachines.Table

/-!
# Tables and their rows

Three builders make tables: from rows of any lengths, from cells in row order, and from rows whose
number and length are known beforehand. What each of them accepts, and what the table is then, is
given by `ofRows_eq_ok_iff`, `ofFlat_eq_ok_iff` and `ofVectors_eq_iff`; rows of different lengths
are refused with the first one that differs from the row at the top (`ofRows_eq_error_iff`).

A table built from rows `Holds` them: its cells are the cells of the rows, one row after the other,
and a row and a column lead to the cell at that column of that row and to no other. Behind this
stands one fact about lists, that rows of one length find their cells again in the list of all cells
(`getElem?_flatten_of_forall`). Tables are equal when they have the same dimensions and the same
cells (`eq_iff_get_eq`), which is why the builders agree (`buildersAgree`).
-/

namespace TableMachines

variable {α : Type}

/-! ## Rows of one length -/

section

variable {rows : List (List α)} {cols : Nat}

/-- In the list of all cells, a cell stands at the number of cells in the rows before its own and of
cells before it in its row. -/
theorem getElem?_flatten_of_forall (h : ∀ row ∈ rows, row.length = cols) {col : Nat}
    (hc : col < cols) (row : Nat) :
    rows.flatten[row * cols + col]? = rows[row]?.bind (·[col]?) := by
  induction rows generalizing row with
  | nil => rfl
  | cons first rest ih =>
    obtain ⟨hfirst, hrest⟩ := List.forall_mem_cons.1 h
    cases row with
    | zero =>
      rw [Nat.zero_mul, Nat.zero_add, List.flatten_cons, List.getElem?_append_left (by omega)]
      rfl
    | succ row =>
      have hplace : (row + 1) * cols + col = first.length + (row * cols + col) := by
        rw [Nat.succ_mul, hfirst]
        omega
      rw [hplace, List.flatten_cons, List.getElem?_append_right (by omega),
        Nat.add_sub_cancel_left, ih hrest, List.getElem?_cons_succ]

/-- The cells of a row stand together in the list of all cells. -/
theorem take_drop_flatten_of_forall (h : ∀ row ∈ rows, row.length = cols) {row : Nat}
    {line : List α} (hline : rows[row]? = some line) :
    (rows.flatten.drop (row * cols)).take cols = line := by
  induction rows generalizing row with
  | nil => simp at hline
  | cons first rest ih =>
    obtain ⟨hfirst, hrest⟩ := List.forall_mem_cons.1 h
    rw [List.flatten_cons]
    cases row with
    | zero =>
      obtain rfl : first = line := by simpa using hline
      rw [Nat.zero_mul, List.drop_zero, List.take_left' hfirst]
    | succ row =>
      rw [Nat.succ_mul, Nat.add_comm, ← List.drop_drop, List.drop_left' hfirst]
      exact ih hrest hline

end

namespace Table

variable {t u : Table α} {rows : List (List α)}

/-! ## Equality -/

theorem eq_of_cells_eq (hrows : t.rows = u.rows) (hcols : t.cols = u.cols)
    (hcells : t.cells = u.cells) : t = u := by
  cases t
  cases u
  simp_all

/-- The cells within the dimensions are all the cells there are. -/
theorem eq_of_get?_eq (hrows : t.rows = u.rows) (hcols : t.cols = u.cols)
    (h : ∀ row < t.rows, ∀ col < t.cols, t.get? row col = u.get? row col) : t = u := by
  refine eq_of_cells_eq hrows hcols (Array.ext ?_ ?_)
  · rw [t.size_cells, u.size_cells, hrows, hcols]
  · intro place ht hu
    have hlt : place < t.rows * t.cols := t.size_cells ▸ ht
    have hr : place / t.cols < t.rows := Nat.div_lt_of_lt_mul (by rwa [Nat.mul_comm])
    have hc : place % t.cols < t.cols := Nat.mod_lt _ (Nat.pos_of_lt_mul_left hlt)
    have hplace : place / t.cols * t.cols + place % t.cols = place := by
      rw [Nat.mul_comm]
      exact Nat.div_add_mod place t.cols
    have hcell := h _ hr _ hc
    rw [t.get?_of_lt hr hc] at hcell
    obtain ⟨-, -, hget⟩ := (u.get?_eq_some_iff _ _ _).1 hcell.symm
    rw [← hcols, hplace, Array.getElem?_eq_getElem hu, Option.some.injEq] at hget
    rw [hget]
    simp only [cell, hplace]

theorem eq_iff_get_eq : t = u ↔ t.rows = u.rows ∧ t.cols = u.cols ∧
    ∀ row < t.rows, ∀ col < t.cols, t.get row col = u.get row col := by
  constructor
  · rintro rfl
    exact ⟨rfl, rfl, fun _ _ _ _ => rfl⟩
  · rintro ⟨hrows, hcols, h⟩
    refine eq_of_get?_eq hrows hcols fun row hr col hc => ?_
    have hcell := t.get?_of_lt hr hc
    rw [hcell]
    rw [← get_eq_ok_iff, h row hr col hc, get_eq_ok_iff] at hcell
    exact hcell.symm

/-! ## Building from rows -/

/-- The number of cells in the row at the top, and `0` when there is no row. -/
def width (rows : List (List α)) : Nat := (rows.head?.map List.length).getD 0

/-- The rows before `row`, `index` of them, have `cols` cells each, and `row` has not. -/
def FirstRagged (cols : Nat) (rows : List (List α)) (index : Nat) (row : List α) : Prop :=
  ∃ before after, rows = before ++ row :: after ∧ before.length = index ∧
    (∀ r ∈ before, r.length = cols) ∧ row.length ≠ cols

theorem raggedFault?_eq_none_iff {cols : Nat} :
    raggedFault? cols rows = none ↔ ∀ row ∈ rows, row.length = cols := by
  refine ⟨length_eq_of_raggedFault?_eq_none, fun h => ?_⟩
  refine List.findSome?_eq_none_iff.2 fun (row, index) hmem => if_pos (h row ?_)
  exact List.fst_mem_of_mem_zipIdx hmem

/-- The search for a ragged row ends at the first one. -/
theorem raggedFault?_eq_some_iff {cols : Nat} {err : BuildError} :
    raggedFault? cols rows = some err ↔
      ∃ index row, FirstRagged cols rows index row ∧ err = .raggedRows index cols row.length := by
  unfold raggedFault?
  rw [List.findSome?_eq_some_iff]
  constructor
  · rintro ⟨lead, ⟨row, index⟩, rest, hsplit, hfault, hlead⟩
    obtain ⟨before, tail, rfl, rfl, htail⟩ := List.zipIdx_eq_append_iff.1 hsplit
    obtain ⟨line, after, rfl, hline, -⟩ := List.zipIdx_eq_cons_iff.1 htail.symm
    obtain ⟨rfl, rfl⟩ := Prod.mk.inj hline
    by_cases hrow : row.length = cols
    · simp [hrow] at hfault
    · refine ⟨_, row, ⟨before, after, rfl, (Nat.zero_add _).symm, ?_, hrow⟩, ?_⟩
      · intro r hr
        obtain ⟨i, hi⟩ := List.mem_iff_getElem?.1 hr
        simpa using hlead (r, i) (List.mk_mem_zipIdx_iff_getElem?.2 hi)
      · simpa [hrow] using hfault.symm
  · rintro ⟨index, row, ⟨before, after, rfl, rfl, hbefore, hrow⟩, rfl⟩
    refine ⟨before.zipIdx, (row, before.length), after.zipIdx (before.length + 1), ?_, ?_, ?_⟩
    · rw [List.zipIdx_append, List.zipIdx_cons, Nat.zero_add]
    · exact if_neg hrow
    · intro (r, i) hr
      exact if_pos (hbefore r (List.fst_mem_of_mem_zipIdx hr))

theorem ofRows_eq_error_iff {err : BuildError} :
    ofRows rows = .error err ↔ ∃ index row, FirstRagged (width rows) rows index row ∧
      err = .raggedRows index (width rows) row.length := by
  rw [← raggedFault?_eq_some_iff]
  unfold ofRows
  dsimp only
  split
  · rename_i fault hfault
    exact ⟨fun h => hfault.trans (congrArg some (Except.error.inj h)),
      fun h => congrArg Except.error (Option.some.inj (hfault.symm.trans h))⟩
  · rename_i hnone
    constructor
    · intro h
      cases h
    · intro h
      cases hnone.symm.trans h

theorem ofRows_eq_ok_iff : ofRows rows = .ok t ↔ (∀ row ∈ rows, row.length = width rows) ∧
    t.rows = rows.length ∧ t.cols = width rows ∧ t.toList = rows.flatten := by
  unfold ofRows
  dsimp only
  split
  · rename_i fault hfault
    constructor
    · intro h
      cases h
    · rintro ⟨hall, -⟩
      cases hfault.symm.trans (raggedFault?_eq_none_iff.2 hall)
  · rename_i hnone
    constructor
    · intro h
      cases h
      exact ⟨raggedFault?_eq_none_iff.1 hnone, rfl, rfl, rfl⟩
    · rintro ⟨-, hrows, hcols, hcells⟩
      refine congrArg Except.ok (eq_of_cells_eq hrows.symm hcols.symm ?_)
      exact (Array.toList_inj.1 hcells).symm

theorem exists_ofRows_eq_ok_iff :
    (∃ t, ofRows rows = .ok t) ↔ ∀ row ∈ rows, row.length = width rows := by
  constructor
  · rintro ⟨t, h⟩
    exact (ofRows_eq_ok_iff.1 h).1
  · intro h
    have hsize : rows.flatten.toArray.size = rows.length * width rows :=
      length_flatten_of_forall h
    exact ⟨⟨_, _, _, hsize⟩, ofRows_eq_ok_iff.2 ⟨h, rfl, rfl, rfl⟩⟩

/-! ## Building from cells in row order -/

theorem ofFlat_eq_ok_iff {rows cols : Nat} {cells : Array α} : ofFlat rows cols cells = .ok t ↔
    cells.size = rows * cols ∧ t.rows = rows ∧ t.cols = cols ∧ t.cells = cells := by
  unfold ofFlat
  by_cases hsize : cells.size = rows * cols
  · rw [dif_pos hsize, Except.ok.injEq]
    constructor
    · rintro rfl
      exact ⟨hsize, rfl, rfl, rfl⟩
    · rintro ⟨-, hrows, hcols, hcells⟩
      exact eq_of_cells_eq hrows.symm hcols.symm hcells.symm
  · rw [dif_neg hsize]
    constructor
    · intro h
      cases h
    · rintro ⟨h, -⟩
      exact absurd h hsize

theorem exists_ofFlat_eq_ok_iff {rows cols : Nat} {cells : Array α} :
    (∃ t, ofFlat rows cols cells = .ok t) ↔ cells.size = rows * cols := by
  constructor
  · rintro ⟨t, h⟩
    exact (ofFlat_eq_ok_iff.1 h).1
  · intro h
    exact ⟨⟨_, _, _, h⟩, ofFlat_eq_ok_iff.2 ⟨h, rfl, rfl, rfl⟩⟩

theorem ofFlat_flatten_of_ofRows (h : ofRows rows = .ok t) :
    ofFlat rows.length (width rows) rows.flatten.toArray = .ok t := by
  obtain ⟨hall, hrows, hcols, hcells⟩ := ofRows_eq_ok_iff.1 h
  exact ofFlat_eq_ok_iff.2
    ⟨length_flatten_of_forall hall, hrows, hcols, Array.toList_inj.1 hcells⟩

/-! ## Building from rows of a known length -/

section

variable {m n : Nat} {cells : Vector (Vector α n) m}

/-- The rows of a vector of vectors, one by one. -/
def lines (cells : Vector (Vector α n) m) : List (List α) := cells.toList.map Vector.toList

theorem length_of_mem_lines {line : List α} (h : line ∈ lines cells) : line.length = n := by
  obtain ⟨row, -, rfl⟩ := List.mem_map.1 h
  exact Vector.length_toList

theorem length_lines (cells : Vector (Vector α n) m) : (lines cells).length = m := by
  rw [lines, List.length_map, Vector.length_toList]

theorem toList_ofVectors (cells : Vector (Vector α n) m) :
    (ofVectors cells).toList = (lines cells).flatten := by
  simp only [toList, ofVectors, lines, Vector.flatten, Array.toList_flatten, Array.toList_map,
    List.map_map]
  rfl

theorem ofVectors_eq_iff :
    ofVectors cells = t ↔ t.rows = m ∧ t.cols = n ∧ t.toList = (lines cells).flatten := by
  rw [← toList_ofVectors]
  constructor
  · rintro rfl
    exact ⟨rfl, rfl, rfl⟩
  · rintro ⟨hrows, hcols, hcells⟩
    exact eq_of_cells_eq hrows.symm hcols.symm (Array.toList_inj.1 hcells).symm

theorem width_lines (hm : 0 < m) (cells : Vector (Vector α n) m) : width (lines cells) = n := by
  obtain ⟨line, hline⟩ := List.exists_mem_of_length_pos ((length_lines cells).symm ▸ hm)
  cases hlines : lines cells with
  | nil => simp [hlines] at hline
  | cons first rest => exact length_of_mem_lines (hlines ▸ List.mem_cons_self)

/-- Where there is a row, the rows tell their length. -/
theorem ofRows_lines (hm : 0 < m) (cells : Vector (Vector α n) m) :
    ofRows (lines cells) = .ok (ofVectors cells) := by
  obtain ⟨hrows, hcols, hcells⟩ := ofVectors_eq_iff.1 (rfl : ofVectors cells = _)
  rw [ofRows_eq_ok_iff, width_lines hm, length_lines]
  exact ⟨fun _ => length_of_mem_lines, hrows, hcols, hcells⟩

theorem ofFlat_lines (cells : Vector (Vector α n) m) :
    ofFlat m n (lines cells).flatten.toArray = .ok (ofVectors cells) := by
  have hsize : (lines cells).flatten.length = (lines cells).length * n :=
    length_flatten_of_forall fun _ => length_of_mem_lines
  rw [length_lines] at hsize
  obtain ⟨hrows, hcols, hcells⟩ := ofVectors_eq_iff.1 (rfl : ofVectors cells = _)
  exact ofFlat_eq_ok_iff.2 ⟨hsize, hrows, hcols, Array.toList_inj.1 hcells⟩

end

/-! ## Reading rows back -/

/-- The table holds the rows, and nothing is read from it that is not at the place asked for. -/
structure Holds (t : Table α) (rows : List (List α)) : Prop where
  rows_eq : t.rows = rows.length
  cols_eq : t.cols = width rows
  toList_eq : t.toList = rows.flatten
  row?_eq : ∀ row, (t.row? row).map Array.toList = rows[row]?
  exists_get_eq_ok : ∀ row < rows.length, ∀ col < width rows, ∃ cell, t.get row col = .ok cell
  get_eq_ok_iff : ∀ row col cell, t.get row col = .ok cell ↔
    ∃ r, rows[row]? = some r ∧ r[col]? = some cell
  get_of_rows_le : ∀ row col, rows.length ≤ row →
    t.get row col = .error (.outOfRange row rows.length)
  get_of_cols_le : ∀ row col, row < rows.length → width rows ≤ col →
    t.get row col = .error (.outOfRange col (width rows))

theorem toList_row?_of_toList_eq (hall : ∀ row ∈ rows, row.length = t.cols)
    (hrows : t.rows = rows.length) (hcells : t.toList = rows.flatten) (row : Nat) :
    (t.row? row).map Array.toList = rows[row]? := by
  unfold row?
  by_cases hr : row < t.rows
  · obtain ⟨line, hline⟩ : ∃ line, rows[row]? = some line :=
      ⟨_, List.getElem?_eq_getElem (hrows ▸ hr)⟩
    have hstop : (row + 1) * t.cols - row * t.cols = t.cols := by
      rw [Nat.succ_mul, Nat.add_sub_cancel_left]
    rw [if_pos hr, Option.map_some, Array.toList_extract, List.extract_eq_take_drop, hstop, hline]
    change some ((t.toList.drop (row * t.cols)).take t.cols) = some line
    rw [hcells, take_drop_flatten_of_forall hall hline]
  · rw [if_neg hr, List.getElem?_eq_none (by omega)]
    rfl

theorem get_eq_ok_iff_of_toList_eq (hall : ∀ row ∈ rows, row.length = t.cols)
    (hrows : t.rows = rows.length) (hcells : t.toList = rows.flatten) (row col : Nat) (cell : α) :
    t.get row col = .ok cell ↔ ∃ r, rows[row]? = some r ∧ r[col]? = some cell := by
  have hplace (hc : col < t.cols) :
      t.cells[row * t.cols + col]? = rows[row]?.bind (·[col]?) := by
    rw [← getElem?_flatten_of_forall hall hc, ← hcells, toList, Array.getElem?_toList]
  rw [get_eq_ok_iff, get?_eq_some_iff]
  constructor
  · rintro ⟨-, hc, hcell⟩
    rw [hplace hc, Option.bind_eq_some_iff] at hcell
    exact hcell
  · rintro ⟨r, hline, hcell⟩
    obtain ⟨hr, -⟩ := List.getElem?_eq_some_iff.1 hline
    obtain ⟨hc, -⟩ := List.getElem?_eq_some_iff.1 hcell
    have hc : col < t.cols := hall r (List.mem_of_getElem? hline) ▸ hc
    exact ⟨hrows ▸ hr, hc, by rw [hplace hc, hline]; exact hcell⟩

theorem get_ofVectors_eq_ok_iff {m n : Nat} (cells : Vector (Vector α n) m) (row col : Nat)
    (cell : α) : (ofVectors cells).get row col = .ok cell ↔
      ∃ entries, (lines cells)[row]? = some entries ∧ entries[col]? = some cell :=
  get_eq_ok_iff_of_toList_eq (fun _ => length_of_mem_lines) (length_lines cells).symm
    (toList_ofVectors cells) row col cell

theorem holds_of_ofRows (h : ofRows rows = .ok t) : t.Holds rows := by
  obtain ⟨hall, hrows, hcols, hcells⟩ := ofRows_eq_ok_iff.1 h
  rw [← hcols] at hall
  refine ⟨hrows, hcols, hcells, toList_row?_of_toList_eq hall hrows hcells, ?_,
    get_eq_ok_iff_of_toList_eq hall hrows hcells, ?_, ?_⟩
  · intro row hr col hc
    exact ⟨_, t.get_of_lt (hrows ▸ hr) (hcols ▸ hc)⟩
  · intro row col hr
    rw [← hrows] at hr ⊢
    exact get_of_rows_le hr col
  · intro row col hr hc
    rw [← hcols] at hc ⊢
    exact get_of_cols_le (hrows ▸ hr) hc

/-- What the builders accept, and that they make the same tables. -/
structure BuildersAgree (α : Type) : Prop where
  exists_ofRows_iff : ∀ rows : List (List α),
    (∃ t, ofRows rows = .ok t) ↔ ∀ row ∈ rows, row.length = width rows
  ofRows_refuses : ∀ (rows : List (List α)) err, ofRows rows = .error err ↔
    ∃ index row, FirstRagged (width rows) rows index row ∧
      err = .raggedRows index (width rows) row.length
  holds : ∀ (rows : List (List α)) t, ofRows rows = .ok t → t.Holds rows
  exists_ofFlat_iff : ∀ rows cols (cells : Array α),
    (∃ t, ofFlat rows cols cells = .ok t) ↔ cells.size = rows * cols
  /-- The cells of the rows, one row after the other, make the table that the rows make. -/
  ofFlat_eq_ofRows : ∀ (rows : List (List α)) t, ofRows rows = .ok t →
    ofFlat rows.length (width rows) rows.flatten.toArray = .ok t
  ofFlat_eq_ofVectors : ∀ (m n : Nat) (cells : Vector (Vector α n) m),
    ofFlat m n (lines cells).flatten.toArray = .ok (ofVectors cells)
  ofRows_eq_ofVectors : ∀ (m n : Nat) (cells : Vector (Vector α n) m), 0 < m →
    ofRows (lines cells) = .ok (ofVectors cells)
  /-- No rows at all tell no length. -/
  ofRows_nil : ∀ (n : Nat) (cells : Vector (Vector α n) 0), 0 < n →
    ∃ t, ofRows (lines cells) = .ok t ∧ t.rows = 0 ∧ t.cols = 0 ∧ ofVectors cells ≠ t
  eq_iff : ∀ t u : Table α, t = u ↔ t.rows = u.rows ∧ t.cols = u.cols ∧
    ∀ row < t.rows, ∀ col < t.cols, t.get row col = u.get row col

/-- Whichever way a table is built, the same rows make the same table, and from it they can be read
back cell by cell. -/
theorem buildersAgree (α : Type) : BuildersAgree α where
  exists_ofRows_iff _ := exists_ofRows_eq_ok_iff
  ofRows_refuses _ _ := ofRows_eq_error_iff
  holds _ _ := holds_of_ofRows
  exists_ofFlat_iff _ _ _ := exists_ofFlat_eq_ok_iff
  ofFlat_eq_ofRows _ _ := ofFlat_flatten_of_ofRows
  ofFlat_eq_ofVectors _ _ := ofFlat_lines
  ofRows_eq_ofVectors _ _ cells hm := ofRows_lines hm cells
  ofRows_nil n cells hn := by
    have hlines : lines cells = [] := List.eq_nil_of_length_eq_zero (length_lines cells)
    refine ⟨⟨0, 0, #[], rfl⟩, ?_, rfl, rfl, ?_⟩
    · rw [hlines, ofRows_eq_ok_iff]
      exact ⟨by simp, rfl, rfl, rfl⟩
    · intro h
      have hcols : n = 0 := congrArg Table.cols h
      omega
  eq_iff _ _ := eq_iff_get_eq

/-- Column `3` of the upper of two rows would be at the place of the first cell below, and is
refused. A lower row that is too short is refused, too. -/
theorem twoRows_buildersAgree :
    ∃ t : Table Nat, ofRows [[1, 2, 3], [4, 5, 6]] = .ok t ∧ t.get 1 0 = .ok 4 ∧
      t.toList[0 * 3 + 3]? = some 4 ∧ t.get 0 3 = .error (.outOfRange 3 3) ∧
      ofRows [[1, 2, 3], [4, 5]] = .error (.raggedRows 1 3 2) := by
  have h := buildersAgree Nat
  obtain ⟨t, ht⟩ := (h.exists_ofRows_iff [[1, 2, 3], [4, 5, 6]]).2 (by decide)
  have hholds := h.holds _ t ht
  refine ⟨t, ht, (hholds.get_eq_ok_iff 1 0 4).2 ⟨_, rfl, rfl⟩, ?_,
    hholds.get_of_cols_le 0 3 (by decide) (by decide), (h.ofRows_refuses _ _).2 ?_⟩
  · rw [hholds.toList_eq]
    rfl
  · exact ⟨1, [4, 5], ⟨[[1, 2, 3]], [], rfl, rfl, by decide, by decide⟩, rfl⟩

end Table

end TableMachines
