import TableMachines.Control

/-!
# Tapes

A tape is infinite in both directions and blank almost everywhere. Only a window of it is kept: the
cell under the head and the cells on its two sides, nearest cell first. `look` reads the infinite
tape through the window, counting cells from the head.

When the head leaves a cell that is blank and at an end of the window, the cell is dropped, since it
can be told from the rest of the tape no longer; when the head leaves the window, a blank cell is
added for it. `cells` and `cursor` show the window from left to right.
-/

namespace TableMachines

/-- The window of a tape around its head. -/
structure Tape where
  /-- The cells to the left of the head, nearest first. -/
  left : List Nat
  head : Nat
  /-- The cells to the right of the head, nearest first. -/
  right : List Nat
  deriving DecidableEq, Repr

namespace Tape

/-- The tape that holds a word from the head on; the empty word leaves one blank cell. -/
def ofWord (blank : Nat) (word : List Nat) : Tape where
  left := []
  head := word.headD blank
  right := word.tail

/-- The cells of the window from left to right. -/
def cells (t : Tape) : List Nat := t.left.reverse ++ t.head :: t.right

/-- The place of the head in the window. -/
def cursor (t : Tape) : Nat := t.left.length

/-- The letter `distance` cells to the right of the head. -/
def look (blank : Nat) (t : Tape) (distance : Int) : Nat :=
  match distance with
  | .ofNat 0 => t.head
  | .ofNat (n + 1) => t.right.getD n blank
  | .negSucc n => t.left.getD n blank

/-- Writes a letter under the head. -/
def write (t : Tape) (letter : Nat) : Tape := { t with head := letter }

/-- A side of the window after the head has left a letter on it; a blank at the end is dropped. -/
def leave (blank letter : Nat) (side : List Nat) : List Nat :=
  if letter = blank ∧ side = [] then [] else letter :: side

/-- Moves the head one cell to the left. The cell that it leaves becomes the nearest on its
right. -/
def moveLeft (blank : Nat) (t : Tape) : Tape where
  left := t.left.tail
  head := t.left.headD blank
  right := leave blank t.head t.right

/-- Moves the head one cell to the right. The cell that it leaves becomes the nearest on its
left. -/
def moveRight (blank : Nat) (t : Tape) : Tape where
  left := leave blank t.head t.left
  head := t.right.headD blank
  right := t.right.tail

/-- Moves the head in a direction. -/
def move (blank : Nat) (t : Tape) : Direction → Tape
  | .left => t.moveLeft blank
  | .stay => t
  | .right => t.moveRight blank

@[simp]
theorem look_zero (blank : Nat) (t : Tape) : t.look blank 0 = t.head := rfl

theorem look_ofNat_succ (blank n : Nat) (t : Tape) :
    t.look blank (n + 1 : Nat) = t.right.getD n blank := rfl

theorem look_negSucc (blank n : Nat) (t : Tape) :
    t.look blank (.negSucc n) = t.left.getD n blank := rfl

theorem look_write_zero (blank letter : Nat) (t : Tape) :
    (t.write letter).look blank 0 = letter := rfl

theorem look_write_of_ne {blank letter : Nat} {t : Tape} {d : Int} (h : d ≠ 0) :
    (t.write letter).look blank d = t.look blank d := by
  cases d with
  | ofNat n =>
    cases n with
    | zero => exact absurd rfl h
    | succ n => rfl
  | negSucc n => rfl

theorem getD_leave (blank letter : Nat) (side : List Nat) (n : Nat) :
    (leave blank letter side).getD n blank = (letter :: side).getD n blank := by
  unfold leave
  split
  · rename_i h
    obtain ⟨rfl, rfl⟩ := h
    cases n <;> rfl
  · rfl

theorem look_moveRight (blank : Nat) (t : Tape) (d : Int) :
    (t.moveRight blank).look blank d = t.look blank (d + 1) := by
  match d with
  | .ofNat 0 =>
    change t.right.headD blank = t.right.getD 0 blank
    cases t.right <;> rfl
  | .ofNat (n + 1) =>
    change t.right.tail.getD n blank = t.right.getD (n + 1) blank
    cases t.right <;> rfl
  | .negSucc 0 => exact getD_leave blank t.head t.left 0
  | .negSucc (n + 1) => exact getD_leave blank t.head t.left (n + 1)

theorem look_moveLeft (blank : Nat) (t : Tape) (d : Int) :
    (t.moveLeft blank).look blank d = t.look blank (d - 1) := by
  match d with
  | .ofNat 0 =>
    change t.left.headD blank = t.left.getD 0 blank
    cases t.left <;> rfl
  | .ofNat 1 => exact getD_leave blank t.head t.right 0
  | .ofNat (n + 2) =>
    have h : (Int.ofNat (n + 2) - 1 : Int) = Int.ofNat (n + 1) := by
      simp only [Int.ofNat_eq_natCast]
      omega
    rw [h]
    exact getD_leave blank t.head t.right (n + 1)
  | .negSucc n =>
    have h : (Int.negSucc n - 1 : Int) = Int.negSucc (n + 1) := by omega
    rw [h]
    change t.left.tail.getD n blank = t.left.getD (n + 1) blank
    cases t.left <;> rfl

/-- Moving the head changes the tape seen from it by a shift, whatever is dropped or added. -/
theorem look_move (blank : Nat) (t : Tape) (direction : Direction) (d : Int) :
    (t.move blank direction).look blank d = t.look blank (d + direction.offset) := by
  cases direction with
  | left => exact look_moveLeft blank t d
  | stay => simp [move, Direction.offset]
  | right => exact look_moveRight blank t d

theorem cells_ne_nil (t : Tape) : t.cells ≠ [] := by
  simp [cells]

theorem length_cells (t : Tape) : t.cells.length = t.left.length + 1 + t.right.length := by
  simp only [cells, List.length_append, List.length_reverse, List.length_cons]
  omega

theorem cursor_lt_length_cells (t : Tape) : t.cursor < t.cells.length := by
  rw [length_cells, cursor]
  omega

theorem getElem?_cells_cursor (t : Tape) : t.cells[t.cursor]? = some t.head := by
  simp [cells, cursor]

theorem cells_ofWord {blank : Nat} {word : List Nat} (h : word ≠ []) :
    (ofWord blank word).cells = word := by
  cases word with
  | nil => exact absurd rfl h
  | cons letter word => rfl

theorem cells_ofWord_nil (blank : Nat) : (ofWord blank []).cells = [blank] := rfl

theorem cursor_ofWord (blank : Nat) (word : List Nat) : (ofWord blank word).cursor = 0 := rfl

/-- Window and place of the head determine the tape. -/
theorem eq_of_cells_eq {t u : Tape} (hcells : t.cells = u.cells) (hcursor : t.cursor = u.cursor) :
    t = u := by
  obtain ⟨tl, th, tr⟩ := t
  obtain ⟨ul, uh, ur⟩ := u
  simp only [cells, cursor] at hcells hcursor
  obtain ⟨hleft, hrest⟩ := List.append_inj hcells (by simpa using hcursor)
  simp_all

end Tape

end TableMachines
