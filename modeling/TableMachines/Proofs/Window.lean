import Mathlib.Tactic.ByContra
import TableMachines.TuringMachine.Textbook

/-!
# Windows of tapes

What the window of a tape, its cells from left to right and the place of its head, says about the
infinite tape. The letters seen from the head are those of the window, and blanks outside of it
(`look_eq_wordTape`). The moves of the head are given on the window itself: which end cell is
dropped and where a blank is added (`cells_moveRight`, `cells_moveLeft`).

A window is `Trimmed` when it has no blank at an end, except under the head. Writing and moving keep
windows trimmed (`Trimmed.write`, `Trimmed.move`), and a trimmed window is exactly the least one
that holds the head and every cell that is not blank (`trimmed_iff_isLeastWindow`), so that the tape
seen from the head determines it (`IsLeastWindow.unique`).
-/

namespace TableMachines

open TuringMachine (wordTape)

theorem wordTape_of_neg {blank : Nat} {word : List Nat} {place : Int} (h : place < 0) :
    wordTape blank word place = blank := by
  obtain ⟨n, rfl⟩ := Int.eq_negSucc_of_lt_zero h
  rfl

theorem wordTape_natCast (blank : Nat) (word : List Nat) (n : Nat) :
    wordTape blank word (n : Int) = word.getD n blank := rfl

theorem lt_length_of_wordTape_ne {blank : Nat} {word : List Nat} {place : Int}
    (h : wordTape blank word place ≠ blank) : 0 ≤ place ∧ place < word.length := by
  by_cases hneg : place < 0
  · exact absurd (wordTape_of_neg hneg) h
  · obtain ⟨n, rfl⟩ := Int.eq_ofNat_of_zero_le (Int.not_lt.1 hneg)
    refine ⟨by omega, ?_⟩
    by_contra hle
    rw [wordTape_natCast, List.getD_eq_getElem?_getD,
      List.getElem?_eq_none (by omega : word.length ≤ n)] at h
    exact h rfl

namespace Tape

/-! ## The letters of a window -/

theorem mem_cells_iff {t : Tape} {letter : Nat} :
    letter ∈ t.cells ↔ letter ∈ t.left ∨ letter = t.head ∨ letter ∈ t.right := by
  simp [cells]

theorem mem_of_mem_leave {blank letter l : Nat} {side : List Nat}
    (h : l ∈ leave blank letter side) : l = letter ∨ l ∈ side := by
  unfold leave at h
  split at h
  · cases h
  · exact List.mem_cons.1 h

theorem headD_mem_or_eq (blank : Nat) (side : List Nat) :
    side.headD blank ∈ side ∨ side.headD blank = blank := by
  cases side with
  | nil => exact Or.inr rfl
  | cons letter side => exact Or.inl List.mem_cons_self

theorem mem_cells_of_mem_cells_move {blank letter : Nat} {t : Tape} {direction : Direction}
    (h : letter ∈ (t.move blank direction).cells) : letter ∈ t.cells ∨ letter = blank := by
  rw [mem_cells_iff] at h ⊢
  cases direction with
  | left =>
    rcases h with h | rfl | h
    · exact Or.inl (Or.inl (List.mem_of_mem_tail h))
    · exact (headD_mem_or_eq blank t.left).imp Or.inl id
    · exact Or.inl (Or.inr (mem_of_mem_leave h))
  | stay => exact Or.inl h
  | right =>
    rcases h with h | rfl | h
    · rcases mem_of_mem_leave h with h | h
      · exact Or.inl (Or.inr (Or.inl h))
      · exact Or.inl (Or.inl h)
    · exact (headD_mem_or_eq blank t.right).imp (Or.inr ∘ Or.inr) id
    · exact Or.inl (Or.inr (Or.inr (List.mem_of_mem_tail h)))

theorem mem_cells_write {letter l : Nat} {t : Tape} (h : l ∈ (t.write letter).cells) :
    l ∈ t.cells ∨ l = letter := by
  rw [mem_cells_iff] at h ⊢
  rcases h with h | h | h
  · exact Or.inl (Or.inl h)
  · exact Or.inr h
  · exact Or.inl (Or.inr (Or.inr h))

/-- The tape seen from the head is the window around the place of the head, with blanks outside. -/
theorem look_eq_wordTape (blank : Nat) (t : Tape) (d : Int) :
    t.look blank d = wordTape blank t.cells (t.cursor + d) := by
  match d with
  | .ofNat 0 =>
    change t.head = t.cells.getD t.cursor blank
    rw [List.getD_eq_getElem?_getD, getElem?_cells_cursor]
    rfl
  | .ofNat (n + 1) =>
    change t.right.getD n blank = t.cells.getD (t.left.length + (n + 1)) blank
    have hright : t.cells[t.left.length + (n + 1)]? = t.right[n]? := by
      rw [cells, List.getElem?_append_right (by simp), List.length_reverse,
        Nat.add_sub_cancel_left, List.getElem?_cons_succ]
    rw [List.getD_eq_getElem?_getD, List.getD_eq_getElem?_getD, hright]
  | .negSucc n =>
    rw [look_negSucc, cursor]
    by_cases hn : n < t.left.length
    · have hplace : (t.left.length : Int) + Int.negSucc n = (t.left.length - 1 - n : Nat) := by
        omega
      have hleft : t.cells[t.left.length - 1 - n]? = t.left[n]? := by
        rw [cells, List.getElem?_append_left (by simp; omega),
          List.getElem?_reverse (by omega)]
        congr 1
        omega
      rw [hplace, wordTape_natCast, List.getD_eq_getElem?_getD, List.getD_eq_getElem?_getD, hleft]
    · rw [wordTape_of_neg (by omega), List.getD_eq_getElem?_getD,
        List.getElem?_eq_none (by omega)]
      rfl

/-! ## Moves on the window -/

theorem cells_write (t : Tape) (letter : Nat) :
    (t.write letter).cells = t.cells.set t.cursor letter := by
  simp [cells, cursor, write]

theorem cursor_write (t : Tape) (letter : Nat) : (t.write letter).cursor = t.cursor := rfl

theorem cursor_eq_zero_iff (t : Tape) : t.cursor = 0 ↔ t.left = [] := List.length_eq_zero_iff

theorem cursor_succ_eq_length_iff (t : Tape) :
    t.cursor + 1 = t.cells.length ↔ t.right = [] := by
  rw [length_cells, cursor, ← List.length_eq_zero_iff]
  omega

/-- A move to the right drops the first cell when it is blank and the head leaves it, and adds a
blank when the head leaves the last cell. -/
theorem cells_moveRight (blank : Nat) (t : Tape) :
    (t.moveRight blank).cells =
      (if t.cursor = 0 ∧ t.head = blank then t.cells.tail else t.cells) ++
        (if t.cursor + 1 = t.cells.length then [blank] else []) := by
  simp only [cursor_eq_zero_iff, cursor_succ_eq_length_iff, and_comm (a := t.left = [])]
  unfold moveRight leave cells
  by_cases hleft : t.head = blank ∧ t.left = []
  · rw [if_pos hleft, if_pos hleft, hleft.2]
    cases t.right <;> simp
  · rw [if_neg hleft, if_neg hleft]
    cases t.right <;> simp

theorem cursor_moveRight (blank : Nat) (t : Tape) :
    (t.moveRight blank).cursor = if t.cursor = 0 ∧ t.head = blank then 0 else t.cursor + 1 := by
  simp only [cursor_eq_zero_iff, and_comm (a := t.left = [])]
  unfold moveRight leave cursor
  split <;> rfl

/-- A move to the left drops the last cell when it is blank and the head leaves it, and adds a blank
when the head leaves the first cell. -/
theorem cells_moveLeft (blank : Nat) (t : Tape) :
    (t.moveLeft blank).cells =
      (if t.cursor = 0 then [blank] else []) ++
        (if t.cursor + 1 = t.cells.length ∧ t.head = blank then t.cells.dropLast else t.cells) := by
  simp only [cursor_eq_zero_iff, cursor_succ_eq_length_iff, and_comm (a := t.right = [])]
  unfold moveLeft leave cells
  by_cases hright : t.head = blank ∧ t.right = []
  · rw [if_pos hright, if_pos hright, hright.2]
    cases t.left <;> simp
  · rw [if_neg hright, if_neg hright]
    cases t.left <;> simp

theorem cursor_moveLeft (blank : Nat) (t : Tape) :
    (t.moveLeft blank).cursor = t.cursor - 1 := List.length_tail

/-! ## Trimmed windows -/

/-- The window has no blank at an end, except under the head. -/
structure Trimmed (blank : Nat) (t : Tape) : Prop where
  first : t.cells.head? ≠ some blank ∨ t.cursor = 0
  last : t.cells.getLast? ≠ some blank ∨ t.cursor + 1 = t.cells.length

theorem trimmed_iff {blank : Nat} {t : Tape} :
    t.Trimmed blank ↔ t.left.getLast? ≠ some blank ∧ t.right.getLast? ≠ some blank := by
  have hfirst : (t.cells.head? ≠ some blank ∨ t.cursor = 0) ↔ t.left.getLast? ≠ some blank := by
    rw [cursor_eq_zero_iff, cells, List.head?_append, List.head?_reverse]
    cases hl : t.left.getLast? with
    | none => simp [List.getLast?_eq_none_iff.1 hl]
    | some letter =>
      have hne : t.left ≠ [] := by
        intro h
        simp [h] at hl
      simp [hne]
  have hlast : (t.cells.getLast? ≠ some blank ∨ t.cursor + 1 = t.cells.length) ↔
      t.right.getLast? ≠ some blank := by
    rw [cursor_succ_eq_length_iff, cells, List.getLast?_append, List.getLast?_cons]
    cases hr : t.right.getLast? with
    | none => simp [List.getLast?_eq_none_iff.1 hr]
    | some letter =>
      have hne : t.right ≠ [] := by
        intro h
        simp [h] at hr
      simp [hne]
  constructor
  · intro h
    exact ⟨hfirst.1 h.first, hlast.1 h.last⟩
  · rintro ⟨hleft, hright⟩
    exact ⟨hfirst.2 hleft, hlast.2 hright⟩

theorem getLast?_leave_ne {blank letter : Nat} {side : List Nat} (h : side.getLast? ≠ some blank) :
    (leave blank letter side).getLast? ≠ some blank := by
  unfold leave
  split
  · simp
  · rename_i hkept
    rw [List.getLast?_cons]
    cases hs : side.getLast? with
    | none => simpa [List.getLast?_eq_none_iff.1 hs] using hkept
    | some last => simpa [hs] using h

theorem getLast?_tail_ne {blank : Nat} {side : List Nat} (h : side.getLast? ≠ some blank) :
    side.tail.getLast? ≠ some blank := by
  rw [List.getLast?_tail]
  split
  · simp
  · exact h

theorem Trimmed.write {blank : Nat} {t : Tape} (h : t.Trimmed blank) (letter : Nat) :
    (t.write letter).Trimmed blank := by
  obtain ⟨hleft, hright⟩ := trimmed_iff.1 h
  exact trimmed_iff.2 ⟨hleft, hright⟩

/-- Moves keep windows trimmed: the side that the head enters loses at most its nearest cell, and
the side that it leaves ends as before, or with the cell left behind, which is no blank then. -/
theorem Trimmed.move {blank : Nat} {t : Tape} (h : t.Trimmed blank) (direction : Direction) :
    (t.move blank direction).Trimmed blank := by
  obtain ⟨hleft, hright⟩ := trimmed_iff.1 h
  cases direction with
  | left => exact trimmed_iff.2 ⟨getLast?_tail_ne hleft, getLast?_leave_ne hright⟩
  | stay => exact h
  | right => exact trimmed_iff.2 ⟨getLast?_leave_ne hleft, getLast?_tail_ne hright⟩

theorem trimmed_ofWord {blank : Nat} {word : List Nat} (h : blank ∉ word) :
    (ofWord blank word).Trimmed blank := by
  rw [trimmed_iff]
  constructor
  · simp [ofWord]
  · intro hlast
    apply h
    exact List.mem_of_mem_tail (List.mem_of_getLast? hlast)

end Tape

/-! ## Least windows -/

/-- The cells from `first` to `last` contain the head and every cell that is not blank. -/
structure Covers (blank : Nat) (tape : Int → Nat) (head first last : Int) : Prop where
  first_le : first ≤ head
  le_last : head ≤ last
  mem_of_ne : ∀ place, tape place ≠ blank → first ≤ place ∧ place ≤ last

/-- The cells shown, with the head at `cursor`, are the smallest contiguous part of the infinite
tape that contains the head and every cell that is not blank. -/
structure IsLeastWindow (blank : Nat) (tape : Int → Nat) (head : Int) (cells : List Nat)
    (cursor : Nat) : Prop where
  letter_eq : ∀ i < cells.length, cells[i]? = some (tape (head - cursor + i))
  covers : Covers blank tape head (head - cursor) (head - cursor + cells.length - 1)
  least : ∀ first last, Covers blank tape head first last →
    first ≤ head - cursor ∧ head - cursor + cells.length - 1 ≤ last

/-- What covers a tape covers another one that looks the same from its head, at the same
distance. -/
theorem Covers.shift {blank : Nat} {tape tape' : Int → Nat} {head head' first last : Int}
    (h : Covers blank tape head first last) (heq : ∀ d, tape (head + d) = tape' (head' + d)) :
    Covers blank tape' head' (first - head + head') (last - head + head') where
  first_le := by have := h.first_le; omega
  le_last := by have := h.le_last; omega
  mem_of_ne place hplace := by
    have hsame : tape (place - head' + head) = tape' place := by
      rw [show place - head' + head = head + (place - head') by omega, heq]
      congr 1
      omega
    have := h.mem_of_ne _ (hsame ▸ hplace)
    omega

/-- The tape seen from the head determines its least window. -/
theorem IsLeastWindow.unique {blank : Nat} {tape tape' : Int → Nat} {head head' : Int}
    {cells cells' : List Nat} {cursor cursor' : Nat}
    (h : IsLeastWindow blank tape head cells cursor)
    (h' : IsLeastWindow blank tape' head' cells' cursor')
    (heq : ∀ d, tape (head + d) = tape' (head' + d)) : cells = cells' ∧ cursor = cursor' := by
  have hto := h'.least _ _ (h.covers.shift heq)
  have hfrom := h.least _ _ (h'.covers.shift fun d => (heq d).symm)
  have hcursor : cursor = cursor' := by omega
  have hlength : cells.length = cells'.length := by omega
  refine ⟨?_, hcursor⟩
  apply List.ext_getElem?
  intro i
  by_cases hi : i < cells.length
  · rw [h.letter_eq i hi, h'.letter_eq i (hlength ▸ hi)]
    have := heq (i - cursor)
    rw [show head + ((i : Int) - cursor) = head - cursor + i by omega,
      show head' + ((i : Int) - cursor) = head' - cursor' + i by omega] at this
    rw [this]
  · rw [List.getElem?_eq_none (by omega), List.getElem?_eq_none (by omega)]

namespace Tape

section

variable {blank : Nat} {t : Tape} {tape : Int → Nat} {head : Int}

theorem eq_wordTape_of_look (h : ∀ d, t.look blank d = tape (head + d)) (place : Int) :
    tape place = wordTape blank t.cells (t.cursor + (place - head)) := by
  rw [← look_eq_wordTape, h]
  congr 1
  omega

theorem getElem?_cells_of_look (h : ∀ d, t.look blank d = tape (head + d)) {i : Nat}
    (hi : i < t.cells.length) : t.cells[i]? = some (tape (head - t.cursor + i)) := by
  rw [eq_wordTape_of_look h, show (t.cursor : Int) + (head - t.cursor + i - head) = i by omega,
    wordTape_natCast, List.getD_eq_getElem?_getD, List.getElem?_eq_getElem hi]
  rfl

theorem covers_of_look (h : ∀ d, t.look blank d = tape (head + d)) :
    Covers blank tape head (head - t.cursor) (head - t.cursor + t.cells.length - 1) where
  first_le := by omega
  le_last := by have := t.cursor_lt_length_cells; omega
  mem_of_ne place hplace := by
    rw [eq_wordTape_of_look h] at hplace
    have := lt_length_of_wordTape_ne hplace
    omega

/-- The end cells of a trimmed window belong to every cover: each holds the head or no blank. -/
theorem Trimmed.isLeastWindow (ht : t.Trimmed blank) (h : ∀ d, t.look blank d = tape (head + d)) :
    IsLeastWindow blank tape head t.cells t.cursor where
  letter_eq _ hi := getElem?_cells_of_look h hi
  covers := covers_of_look h
  least first last hcovers := by
    have hlt := t.cursor_lt_length_cells
    constructor
    · rcases ht.first with hne | hzero
      · rw [List.head?_eq_getElem?, getElem?_cells_of_look h (by omega)] at hne
        have := (hcovers.mem_of_ne _ fun e => hne (congrArg some e)).1
        omega
      · have := hcovers.first_le
        omega
    · rcases ht.last with hne | hlast
      · rw [List.getLast?_eq_getElem?, getElem?_cells_of_look h (by omega)] at hne
        have := (hcovers.mem_of_ne _ fun e => hne (congrArg some e)).2
        omega
      · have := hcovers.le_last
        omega

/-- A blank end that does not hold the head could be left out of the window. -/
theorem IsLeastWindow.trimmed (h : ∀ d, t.look blank d = tape (head + d))
    (hleast : IsLeastWindow blank tape head t.cells t.cursor) : t.Trimmed blank where
  first := by
    by_contra hnot
    obtain ⟨hblank, hcursor⟩ := not_or.1 hnot
    rw [not_not, List.head?_eq_getElem?,
      getElem?_cells_of_look h (by have := t.cursor_lt_length_cells; omega)] at hblank
    have hsmaller : Covers blank tape head (head - t.cursor + 1)
        (head - t.cursor + t.cells.length - 1) := by
      refine ⟨by omega, hleast.covers.le_last, ?_⟩
      intro place hplace
      have hmem := hleast.covers.mem_of_ne place hplace
      have : place ≠ head - t.cursor + (0 : Nat) := fun e => hplace (e ▸ Option.some.inj hblank)
      omega
    have := (hleast.least _ _ hsmaller).1
    omega
  last := by
    by_contra hnot
    obtain ⟨hblank, hcursor⟩ := not_or.1 hnot
    have hlt := t.cursor_lt_length_cells
    rw [not_not, List.getLast?_eq_getElem?, getElem?_cells_of_look h (by omega)] at hblank
    have hsmaller : Covers blank tape head (head - t.cursor)
        (head - t.cursor + t.cells.length - 1 - 1) := by
      refine ⟨hleast.covers.first_le, by omega, ?_⟩
      intro place hplace
      have hmem := hleast.covers.mem_of_ne place hplace
      have : place ≠ head - t.cursor + (t.cells.length - 1 : Nat) :=
        fun e => hplace (e ▸ Option.some.inj hblank)
      omega
    have := (hleast.least _ _ hsmaller).2
    omega

/-- A window of an infinite tape is trimmed exactly when it is the least one. -/
theorem trimmed_iff_isLeastWindow (h : ∀ d, t.look blank d = tape (head + d)) :
    t.Trimmed blank ↔ IsLeastWindow blank tape head t.cells t.cursor :=
  ⟨fun ht => ht.isLeastWindow h, IsLeastWindow.trimmed h⟩

end

end Tape

end TableMachines
