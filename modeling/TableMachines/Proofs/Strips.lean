import TableMachines.Proofs.LeastWindow

/-!
# Windows as plain data

A `Tape` cannot lose its head. So the places where a step could go wrong on the window are looked at
on a `Strip`: the same cells in a row, with a cursor that nothing keeps inside. A step on strips,
`stripStep?`, has a result only when everything that it looks up is there, and from an execution in
range it has the one that the machine's own step has (`InRange.stripStep?_eq`).

So the run on strips never breaks off where an execution starts (`StartsOn.stripRun?_eq`), and after
every number of steps its cells are the least window of the textbook tape, with the cursor on the
cell of the head (`exists_stripRun?_shownBy`).
-/

namespace TableMachines

/-! ## Strips -/

/-- Cells in a row and the place of one of them, as plain data: there may be no cells, and the place
may lie outside. -/
structure Strip where
  cells : List Nat
  cursor : Nat
  deriving DecidableEq, Repr

namespace Strip

/-- The cells of a word with the cursor on the first of them; the empty word has one blank cell. -/
def ofWord (blank : Nat) (word : List Nat) : Strip := ⟨if word = [] then [blank] else word, 0⟩

/-- Writes at the cursor, if there is a cell. -/
def write? (s : Strip) (letter : Nat) : Option Strip :=
  if s.cursor < s.cells.length then some { s with cells := s.cells.set s.cursor letter } else none

/-- The cursor leaves the letter just written for the place to its right, and a blank first cell
that it leaves is dropped. -/
def leaveRight (blank letter : Nat) (s : Strip) : Strip :=
  if s.cursor = 0 ∧ letter = blank then ⟨s.cells.tail, 0⟩ else ⟨s.cells, s.cursor + 1⟩

/-- A blank last cell is dropped when the cursor is about to leave it. -/
def dropRight (blank letter : Nat) (s : Strip) : Strip :=
  if s.cursor + 1 = s.cells.length ∧ letter = blank then ⟨s.cells.dropLast, s.cursor⟩ else s

/-- Moves the cursor away from the letter just written; a blank is added where it runs over an
end. -/
def shift (blank letter : Nat) (s : Strip) : Direction → Strip
  | .left =>
    let rest := s.dropRight blank letter
    if rest.cursor = 0 then ⟨blank :: rest.cells, 0⟩ else ⟨rest.cells, rest.cursor - 1⟩
  | .stay => s
  | .right =>
    let rest := s.leaveRight blank letter
    if rest.cursor = rest.cells.length then ⟨rest.cells ++ [blank], rest.cursor⟩ else rest

end Strip

namespace Tape

/-- The window of a tape as plain data. -/
def strip (t : Tape) : Strip := ⟨t.cells, t.cursor⟩

theorem strip_ofWord (blank : Nat) (word : List Nat) :
    (ofWord blank word).strip = .ofWord blank word := by
  by_cases hword : word = []
  · rw [hword]
    rfl
  · rw [strip, cells_ofWord hword, cursor_ofWord, Strip.ofWord, if_neg hword]

theorem strip_write? (t : Tape) (letter : Nat) :
    t.strip.write? letter = some (t.write letter).strip := by
  have hlt : t.strip.cursor < t.strip.cells.length := t.cursor_lt_length_cells
  rw [Strip.write?, if_pos hlt, strip, strip, cells_write, cursor_write]

theorem strip_moveRight (blank : Nat) (t : Tape) :
    (t.moveRight blank).strip = t.strip.shift blank t.head .right := by
  have hlt := t.cursor_lt_length_cells
  rw [strip, cells_moveRight, cursor_moveRight]
  by_cases hdrop : t.cursor = 0 ∧ t.head = blank
  · have hleave : t.strip.leaveRight blank t.head = ⟨t.cells.tail, 0⟩ := if_pos hdrop
    have hlast : 0 = t.cells.tail.length ↔ t.cursor + 1 = t.cells.length := by
      rw [List.length_tail]
      omega
    simp only [Strip.shift, hleave, hlast, if_pos hdrop]
    split
    · rfl
    · rw [List.append_nil]
  · have hleave : t.strip.leaveRight blank t.head = ⟨t.cells, t.cursor + 1⟩ := if_neg hdrop
    simp only [Strip.shift, hleave, if_neg hdrop]
    split
    · rfl
    · rw [List.append_nil]

theorem strip_moveLeft (blank : Nat) (t : Tape) :
    (t.moveLeft blank).strip = t.strip.shift blank t.head .left := by
  have hdrop : t.strip.dropRight blank t.head =
      ⟨if t.cursor + 1 = t.cells.length ∧ t.head = blank then t.cells.dropLast else t.cells,
        t.cursor⟩ := by
    unfold Strip.dropRight strip
    split <;> rfl
  rw [strip, cells_moveLeft, cursor_moveLeft]
  simp only [Strip.shift, hdrop]
  by_cases hfirst : t.cursor = 0
  · rw [if_pos hfirst, if_pos hfirst, hfirst]
    rfl
  · rw [if_neg hfirst, if_neg hfirst]
    rfl

/-- Moves of the head are moves of the cursor. -/
theorem strip_move (blank : Nat) (t : Tape) (direction : Direction) :
    (t.move blank direction).strip = t.strip.shift blank t.head direction := by
  cases direction with
  | left => exact strip_moveLeft blank t
  | stay => rfl
  | right => exact strip_moveRight blank t

end Tape

namespace TuringMachine

variable {A S : Type} {m : TuringMachine A S} {e : Execution} {word : List Nat}

/-! ## Steps and runs -/

/-- A step on plain data. It has no result where the cursor is outside the cells, where the table
has no cell for the state and the letter, and where a cell is no code of a status, a letter or a
direction. -/
def stripStep? (m : TuringMachine A S) (s : Strip) : Status → Option (Strip × Status)
  | .halted halt => some (s, .halted halt)
  | .running state => do
    let letter ← s.cells[s.cursor]?
    let action ← m.action? state letter
    let written ← s.write? action.write
    some (written.shift m.blank action.write action.direction, action.next)

/-- Where the table has an action, the step on plain data carries it out as the tape does. -/
theorem stripStep?_strip (m : TuringMachine A S) (t : Tape) (state : Nat) :
    m.stripStep? t.strip (.running state) = (m.action? state t.head).map fun action =>
      (((t.write action.write).move m.blank action.direction).strip, action.next) := by
  have hread : t.strip.cells[t.strip.cursor]? = some t.head := t.getElem?_cells_cursor
  cases haction : m.action? state t.head with
  | none => simp [stripStep?, hread, haction]
  | some action =>
    simp only [stripStep?, hread, haction, Tape.strip_write?, Option.bind_eq_bind,
      Option.bind_some, Option.map_some]
    exact congrArg some (Prod.ext (Tape.strip_move m.blank (t.write action.write) _).symm rfl)

/-- In range the step on plain data has a result, the same as the step on the tape. -/
theorem Execution.InRange.stripStep?_eq (h : e.InRange m) :
    m.stripStep? e.tape.strip e.status =
      some ((m.step e).2.tape.strip, (m.step e).2.status) := by
  cases hs : e.status with
  | halted halt =>
    rw [step_of_halted hs, hs]
    rfl
  | running state =>
    obtain ⟨action, haction, -⟩ := m.exists_prescribes (h.state_lt state hs) h.head_lt
    rw [step_of_running hs haction, stripStep?_strip, haction]
    rfl

/-- A number of steps on plain data, one after the other. It has a result when all of them have. -/
def stripRun? (m : TuringMachine A S) : Nat → Strip × Status → Option (Strip × Status)
  | 0, s => some s
  | n + 1, s => do m.stripRun? n (← m.stripStep? s.1 s.2)

/-- In range the run on plain data does not break off and leads where the steps on the tape lead. -/
theorem Execution.InRange.stripRun?_eq (h : e.InRange m) (n : Nat) :
    m.stripRun? n (e.tape.strip, e.status) =
      some ((m.stepper.after n e).tape.strip, (m.stepper.after n e).status) := by
  induction n generalizing e with
  | zero => rfl
  | succ n ih =>
    rw [stripRun?, h.stripStep?_eq, Stepper.after_succ_apply]
    exact ih h.step

/-- A strip and a status stand for a configuration of the textbook machine: the statuses agree, the
cursor is on a cell, every letter of the infinite tape is found from there, in the cells or blank
outside of them, and the cells are as few as can be. -/
structure Configuration.ShownBy (blank : Nat) (c : Configuration) (s : Strip) (status : Status) :
    Prop where
  status_eq : status = c.status
  cursor_lt : s.cursor < s.cells.length
  letter_eq : ∀ d : Int, wordTape blank s.cells (s.cursor + d) = c.tape (c.head + d)
  isLeastWindow : IsLeastWindow blank c.tape c.head s.cells s.cursor

theorem StartsOn.stripRun?_eq (h : m.StartsOn word e) (n : Nat) :
    m.stripRun? n (.ofWord m.blank word, .running m.initial) =
      some ((m.stepper.after n e).tape.strip, (m.stepper.after n e).status) := by
  rw [← h.inRange.stripRun?_eq]
  obtain ⟨-, rfl⟩ := startsOn_iff.1 h
  rw [startOn, Tape.strip_ofWord]

theorem StartsOn.shownBy_strip (h : m.StartsOn word e) {run : Nat → Configuration}
    (hrun : m.IsTextbookRun word run) (n : Nat) :
    (run n).ShownBy m.blank (m.stepper.after n e).tape.strip (m.stepper.after n e).status where
  status_eq := (h.shows hrun n).status_eq
  cursor_lt := Tape.cursor_lt_length_cells _
  letter_eq d := by
    change wordTape m.blank (m.stepper.after n e).tape.cells _ = _
    rw [Tape.strip, ← Tape.look_eq_wordTape]
    exact (h.shows hrun n).look_eq d
  isLeastWindow := h.isLeastWindow hrun n

/-- On a word of input letters the run on plain data has a result after every number of steps. It
follows the textbook machine, and its cells are the least window of the textbook tape. -/
theorem exists_stripRun?_shownBy (hword : ∀ letter ∈ word, m.isInputById letter) :
    ∃ run, m.IsTextbookRun word run ∧ ∀ n, ∃ s status,
      m.stripRun? n (.ofWord m.blank word, .running m.initial) = some (s, status) ∧
        (run n).ShownBy m.blank s status := by
  have h : m.StartsOn word (m.startOn (.ofWord m.blank word)) := startsOn_iff.2 ⟨hword, rfl⟩
  refine ⟨_, h.isTextbookRun, ?_⟩
  intro n
  exact ⟨_, _, h.stripRun?_eq n, h.shownBy_strip h.isTextbookRun n⟩

example : nibbler.stripRun? 8 (.ofWord 0 [1, 1, 1], .running 0) =
    some (⟨[1, 1], 0⟩, .running 3) := by
  decide +kernel

end TuringMachine

end TableMachines
