import TableMachines.Proofs.Reachable
import TableMachines.Proofs.Strips

/-!
# Every lookup succeeds

A running machine looks up many things: the cell under the head, three cells of the table, the
letters and the state to show. `Safe` says that all of these exist in an execution, and that the
cells read off the table are codes of what they stand for, so that none is taken for a letter, a
state or a direction that it is not. The step on plain data, `stripStep?`, has a result only when
everything that it looks up is there, and here it has one. Every reachable execution is safe
(`safe_of_reachable`).
-/

namespace TableMachines

/-- From `-2` on, a number that is no halt code is not negative. -/
theorem Halt.exists_code_or_nonneg {c : Int32} (h : -2 ≤ c.toInt) :
    (∃ halt : Halt, c = halt.code) ∨ 0 ≤ c.toInt := by
  by_cases hreject : c.toInt = -1
  · exact Or.inl ⟨.reject, Int32.toInt_inj.1 hreject⟩
  · by_cases haccept : c.toInt = -2
    · exact Or.inl ⟨.accept, Int32.toInt_inj.1 haccept⟩
    · right
      omega

namespace TuringMachine

variable {A S : Type} {m : TuringMachine A S} {e : Execution}

/-! ## Safe executions -/

/-- What the table says in a state under a letter can be looked up and stands for something: a next
cell is a halt code or a state, a write cell is a letter, and a direction cell is a direction
code. -/
structure Readable (m : TuringMachine A S) (state letter : Nat) : Prop where
  next : ∃ cell, m.transitionCell state (3 * letter) = .ok cell ∧
    ((∃ halt : Halt, cell = halt.code) ∨ 0 ≤ cell.toInt ∧ cell.toInt < m.states.size)
  write : ∃ cell, m.transitionCell state (3 * letter + 1) = .ok cell ∧
    0 ≤ cell.toInt ∧ cell.toInt < m.alphabet.size
  direction : ∃ cell, m.transitionCell state (3 * letter + 2) = .ok cell ∧
    ∃ d : Direction, cell = d.code

/-- Everything that a step and the queries look up in an execution is there. -/
structure Execution.Safe (m : TuringMachine A S) (e : Execution) : Prop where
  cells_ne_nil : e.tape.cells ≠ []
  cursor_lt : e.tape.cursor < e.tape.cells.length
  cell_lt : ∀ letter ∈ e.tape.cells, letter < m.alphabet.size
  status_mem : (∃ halt, e.status = .halted halt) ∨
    ∃ state < m.states.size, e.status = .running state
  readable : ∀ state, e.status = .running state → m.Readable state e.tape.head
  step_eq : m.stripStep? e.tape.strip e.status =
    some ((m.step e).2.tape.strip, (m.step e).2.status)
  tapeLetters_eq : (m.tapeLetters e).map some = e.tape.cells.map m.alphabet.valueOf?
  letterUnderHead_eq : ∃ id letter, e.tape.cells[e.tape.cursor]? = some id ∧
    m.alphabet.valueOf? id = some letter ∧ m.letterUnderHead? e = some letter
  state_eq : ∀ state, e.status = .running state →
    ∃ name, m.states.valueOf? state = some name ∧ m.state? e = some name
  blank_eq : m.alphabet.valueOf? m.blank = some m.blankLetter

theorem map_some_filterMap {α β : Type} {f : α → Option β} {l : List α}
    (h : ∀ a ∈ l, (f a).isSome) : (l.filterMap f).map some = l.map f := by
  induction l with
  | nil => rfl
  | cons a l ih =>
    obtain ⟨ha, hl⟩ := List.forall_mem_cons.1 h
    obtain ⟨b, hb⟩ := Option.isSome_iff_exists.1 ha
    rw [List.filterMap_cons_some hb, List.map_cons, List.map_cons, ih hl, hb]

theorem readable (m : TuringMachine A S) {state letter : Nat} (hs : state < m.states.size)
    (hl : letter < m.alphabet.size) : m.Readable state letter := by
  have w := m.wellFormed
  obtain ⟨next, hnext⟩ := m.exists_cell hs hl (p := 0) (by decide)
  obtain ⟨write, hwrite⟩ := m.exists_cell hs hl (p := 1) (by decide)
  obtain ⟨direction, hdirection⟩ := m.exists_cell hs hl (p := 2) (by decide)
  rw [Nat.add_zero] at hnext
  refine ⟨⟨next, (m.transitions.get_eq_ok_iff _ _ _).2 hnext, ?_⟩,
    ⟨write, (m.transitions.get_eq_ok_iff _ _ _).2 hwrite, w.write_mem _ hs _ hl _ hwrite⟩,
    ⟨direction, (m.transitions.get_eq_ok_iff _ _ _).2 hdirection, ?_⟩⟩
  · obtain ⟨hle, hlt⟩ := w.next_mem _ hs _ hl _ hnext
    exact (Halt.exists_code_or_nonneg hle).imp id fun hnonneg => ⟨hnonneg, hlt⟩
  · obtain ⟨d, hd⟩ := Option.isSome_iff_exists.1 (w.direction_mem _ hs _ hl _ hdirection)
    exact ⟨d, (Direction.code_of_ofCode? hd).symm⟩

theorem Execution.InRange.tapeLetters_eq (h : e.InRange m) :
    (m.tapeLetters e).map some = e.tape.cells.map m.alphabet.valueOf? :=
  map_some_filterMap fun letter hmem =>
    (m.alphabet.isSome_valueOf?_iff letter).2 (h.letter_lt letter hmem)

theorem Execution.InRange.exists_letterUnderHead (h : e.InRange m) :
    ∃ letter, m.alphabet.valueOf? e.tape.head = some letter :=
  Option.isSome_iff_exists.1 ((m.alphabet.isSome_valueOf?_iff _).2 h.head_lt)

theorem Execution.InRange.exists_state (h : e.InRange m) {state : Nat}
    (hs : e.status = .running state) :
    ∃ name, m.states.valueOf? state = some name ∧ m.state? e = some name := by
  obtain ⟨name, hname⟩ := Option.isSome_iff_exists.1
    ((m.states.isSome_valueOf?_iff state).2 (h.state_lt state hs))
  refine ⟨name, hname, ?_⟩
  rw [TuringMachine.state?, hs]
  exact hname

/-- Whatever sequence of requests led to an execution, nothing that the machine looks up in it is
missing, and its next step finds everything it needs. -/
theorem safe_of_reachable [DecidableEq A] [Quoted A] (h : m.Reachable e) : e.Safe m where
  cells_ne_nil := e.tape.cells_ne_nil
  cursor_lt := e.tape.cursor_lt_length_cells
  cell_lt := h.inRange.letter_lt
  status_mem := by
    cases hs : e.status with
    | halted halt => exact Or.inl ⟨halt, rfl⟩
    | running state => exact Or.inr ⟨state, h.inRange.state_lt state hs, rfl⟩
  readable state hs := m.readable (h.inRange.state_lt state hs) h.inRange.head_lt
  step_eq := h.inRange.stripStep?_eq
  tapeLetters_eq := h.inRange.tapeLetters_eq
  letterUnderHead_eq := by
    obtain ⟨letter, hletter⟩ := h.inRange.exists_letterUnderHead
    exact ⟨_, letter, e.tape.getElem?_cells_cursor, hletter, hletter⟩
  state_eq _ hs := h.inRange.exists_state hs
  blank_eq := m.valueOf?_blank

/-- The nibbler's eighth step on three letters leaves a blank first cell, which is dropped, and
finds all that it looks up. -/
theorem nibbler_safe_of_reachable :
    ∃ e, nibbler.Reachable e ∧ e.Safe nibbler ∧ e.tape.strip = ⟨[0, 1, 1], 0⟩ ∧
      nibbler.stripStep? ⟨[0, 1, 1], 0⟩ (.running 2) = some (⟨[1, 1], 0⟩, .running 3) := by
  have hstart : nibbler.Reachable (nibbler.startOn (.ofWord 0 [1, 1, 1])) :=
    .startById (show nibbler.startById [1, 1, 1] = _ from rfl)
  have hreach := hstart.manySteps 7
  have hsafe := safe_of_reachable hreach
  generalize he :
    (nibbler.manySteps 7 (nibbler.startOn (.ofWord 0 [1, 1, 1]))).2 = e at hreach hsafe
  have hstrip : e.tape.strip = ⟨[0, 1, 1], 0⟩ := by
    rw [← he]
    decide +kernel
  have hstatus : e.status = .running 2 := by
    rw [← he]
    decide +kernel
  have hnext : ((nibbler.step e).2.tape.strip, (nibbler.step e).2.status) =
      (⟨[1, 1], 0⟩, .running 3) := by
    rw [← he]
    decide +kernel
  refine ⟨e, hreach, hsafe, hstrip, ?_⟩
  rw [← hstrip, ← hstatus, hsafe.step_eq, hnext]

end TuringMachine

end TableMachines
