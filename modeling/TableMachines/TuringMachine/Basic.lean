import TableMachines.Column
import TableMachines.Control
import TableMachines.Registry
import TableMachines.Table

/-!
# Turing machines

A Turing machine has a tape alphabet with a blank, one input flag per letter, states, an initial
state and a table of 32-bit cells. The table has one row per state and three columns per letter: for
letter `l`, column `3 * l` holds the next state or a halt code, column `3 * l + 1` the letter to
write, and column `3 * l + 2` a direction code.

A `TuringMachine.Draft` is any such collection of parts; `fault?` finds what is wrong with it, in a
fixed order, and a `TuringMachine` is a draft without fault. `action?` reads three cells as an
action; in a machine this succeeds for every state and letter (`isSome_action?`).
-/

namespace TableMachines

namespace TuringMachine

/-- The parts of a Turing machine, not yet checked. -/
structure Draft (A S : Type) where
  alphabet : Registry A
  blank : Nat
  inputs : Column Bool
  states : Registry S
  initial : Nat
  /-- One row per state and three columns per letter. -/
  transitions : Table Int32

namespace Draft

variable {A S : Type}

/-- There has to be a tape letter, and the blank has to be one. -/
def blankFault? (d : Draft A S) : Option BuildError :=
  if d.alphabet.size = 0 then some .emptyTapeAlphabet
  else if d.blank < d.alphabet.size then none
  else some (.blankOutOfRange d.blank d.alphabet.size)

/-- There has to be one input flag per tape letter, and the blank must not be flagged. -/
def inputsFault? (d : Draft A S) : Option BuildError :=
  if d.inputs.size ≠ d.alphabet.size then some (.inputsLength d.alphabet.size d.inputs.size)
  else if d.inputs.get? d.blank = some true then some .blankInInputs
  else none

/-- There has to be a state, and the initial state has to be one. -/
def initialFault? (d : Draft A S) : Option BuildError :=
  if d.states.size = 0 then some .noStates
  else if d.initial < d.states.size then none
  else some (.initialStateOutOfRange d.initial d.states.size)

/-- The table has to have one row per state and three columns per letter. -/
def shapeFault? (d : Draft A S) : Option BuildError :=
  if d.transitions.rows = d.states.size ∧ d.transitions.cols = 3 * d.alphabet.size then none
  else some (.tableShape d.states.size (3 * d.alphabet.size) d.transitions.rows d.transitions.cols)

/-- The first cell of a state and a letter has to hold a halt code or a state. -/
def nextFault? (d : Draft A S) (state letter : Nat) : Option BuildError :=
  match d.transitions.get? state (3 * letter) with
  | none => none
  | some cell =>
    if -2 ≤ cell.toInt ∧ cell.toInt < d.states.size then none
    else some (.nextOutOfRange state letter cell d.states.size)

/-- The second cell of a state and a letter has to hold a letter. -/
def writeFault? (d : Draft A S) (state letter : Nat) : Option BuildError :=
  match d.transitions.get? state (3 * letter + 1) with
  | none => none
  | some cell =>
    if 0 ≤ cell.toInt ∧ cell.toInt < d.alphabet.size then none
    else some (.writeOutOfRange state letter cell d.alphabet.size)

/-- The third cell of a state and a letter has to hold a direction code. -/
def directionFault? (d : Draft A S) (state letter : Nat) : Option BuildError :=
  match d.transitions.get? state (3 * letter + 2) with
  | none => none
  | some cell =>
    if (Direction.ofCode? cell).isSome then none
    else some (.directionOutOfRange state letter cell)

/-- What is wrong with the three cells of a state and a letter, looked at in their order. -/
def cellFault? (d : Draft A S) (state letter : Nat) : Option BuildError :=
  (d.nextFault? state letter).or <| (d.writeFault? state letter).or <|
    d.directionFault? state letter

/-- What is wrong with the first faulty cell, state by state and letter by letter. -/
def cellsFault? (d : Draft A S) : Option BuildError :=
  (Table.places d.states.size d.alphabet.size).findSome? fun (state, letter) =>
    d.cellFault? state letter

/-- What is wrong with a draft: the first of the faults above, in this order. -/
def fault? (d : Draft A S) : Option BuildError :=
  d.blankFault?.or <| d.inputsFault?.or <| d.initialFault?.or <| d.shapeFault?.or d.cellsFault?

/-- What makes the parts a machine: the sizes fit together, the blank is a letter and not for input,
the initial state is a state, and every cell holds a number of its kind. -/
structure WellFormed (d : Draft A S) : Prop where
  blank_lt : d.blank < d.alphabet.size
  size_inputs : d.inputs.size = d.alphabet.size
  inputs_blank : d.inputs.get? d.blank = some false
  initial_lt : d.initial < d.states.size
  rows_eq : d.transitions.rows = d.states.size
  cols_eq : d.transitions.cols = 3 * d.alphabet.size
  next_mem : ∀ state < d.states.size, ∀ letter < d.alphabet.size, ∀ cell,
    d.transitions.get? state (3 * letter) = some cell →
      -2 ≤ cell.toInt ∧ cell.toInt < d.states.size
  write_mem : ∀ state < d.states.size, ∀ letter < d.alphabet.size, ∀ cell,
    d.transitions.get? state (3 * letter + 1) = some cell →
      0 ≤ cell.toInt ∧ cell.toInt < d.alphabet.size
  direction_mem : ∀ state < d.states.size, ∀ letter < d.alphabet.size, ∀ cell,
    d.transitions.get? state (3 * letter + 2) = some cell → (Direction.ofCode? cell).isSome

theorem blankFault?_eq_none_iff (d : Draft A S) :
    d.blankFault? = none ↔ d.blank < d.alphabet.size := by
  unfold blankFault?
  split
  · simp; omega
  · simp

theorem inputsFault?_eq_none_iff (d : Draft A S) : d.inputsFault? = none ↔
    d.inputs.size = d.alphabet.size ∧ d.inputs.get? d.blank ≠ some true := by
  unfold inputsFault?
  split
  · simp_all
  · simp_all

theorem initialFault?_eq_none_iff (d : Draft A S) :
    d.initialFault? = none ↔ d.initial < d.states.size := by
  unfold initialFault?
  split
  · simp; omega
  · simp

theorem shapeFault?_eq_none_iff (d : Draft A S) : d.shapeFault? = none ↔
    d.transitions.rows = d.states.size ∧ d.transitions.cols = 3 * d.alphabet.size := by
  simp [shapeFault?]

theorem nextFault?_eq_none_iff (d : Draft A S) (state letter : Nat) :
    d.nextFault? state letter = none ↔
      ∀ cell, d.transitions.get? state (3 * letter) = some cell →
        -2 ≤ cell.toInt ∧ cell.toInt < d.states.size := by
  unfold nextFault?
  split <;> simp_all

theorem writeFault?_eq_none_iff (d : Draft A S) (state letter : Nat) :
    d.writeFault? state letter = none ↔
      ∀ cell, d.transitions.get? state (3 * letter + 1) = some cell →
        0 ≤ cell.toInt ∧ cell.toInt < d.alphabet.size := by
  unfold writeFault?
  split <;> simp_all

theorem directionFault?_eq_none_iff (d : Draft A S) (state letter : Nat) :
    d.directionFault? state letter = none ↔
      ∀ cell, d.transitions.get? state (3 * letter + 2) = some cell →
        (Direction.ofCode? cell).isSome := by
  unfold directionFault?
  split <;> simp_all [Option.isSome_iff_ne_none]

theorem cellsFault?_eq_none_iff (d : Draft A S) : d.cellsFault? = none ↔
    ∀ state < d.states.size, ∀ letter < d.alphabet.size, d.cellFault? state letter = none := by
  simp only [cellsFault?, List.findSome?_eq_none_iff, Prod.forall, Table.mem_places_iff, and_imp]
  exact ⟨fun h s hs l hl => h s l hs hl, fun h s l hs hl => h s hs l hl⟩

/-- A draft has no fault exactly when it is well formed. -/
theorem fault?_eq_none_iff (d : Draft A S) : d.fault? = none ↔ d.WellFormed := by
  simp only [fault?, cellFault?, Option.or_eq_none_iff, blankFault?_eq_none_iff,
    inputsFault?_eq_none_iff, initialFault?_eq_none_iff, shapeFault?_eq_none_iff,
    cellsFault?_eq_none_iff, nextFault?_eq_none_iff, writeFault?_eq_none_iff,
    directionFault?_eq_none_iff]
  constructor
  · rintro ⟨hblank, ⟨hsize, hinput⟩, hinitial, ⟨hrows, hcols⟩, hcells⟩
    refine ⟨hblank, hsize, ?_, hinitial, hrows, hcols, fun s hs l hl => (hcells s hs l hl).1,
      fun s hs l hl => (hcells s hs l hl).2.1, fun s hs l hl => (hcells s hs l hl).2.2⟩
    cases hflag : d.inputs.get? d.blank with
    | none => exact absurd ((d.inputs.get?_eq_none_iff _).1 hflag) (by omega)
    | some flag => cases flag <;> simp_all
  · rintro ⟨hblank, hsize, hinput, hinitial, hrows, hcols, hnext, hwrite, hdirection⟩
    exact ⟨hblank, ⟨hsize, by simp [hinput]⟩, hinitial, ⟨hrows, hcols⟩, fun s hs l hl =>
      ⟨hnext s hs l hl, hwrite s hs l hl, hdirection s hs l hl⟩⟩

end Draft

end TuringMachine

/-- A Turing machine: a draft without fault. -/
structure TuringMachine (A S : Type) extends TuringMachine.Draft A S where
  fault?_eq_none : toDraft.fault? = none

namespace TuringMachine

variable {A S : Type}

/-- The machine with the parts of a draft, or the first fault of the draft. -/
def ofDraft (d : Draft A S) : Except BuildError (TuringMachine A S) :=
  match h : d.fault? with
  | some fault => .error fault
  | none => .ok ⟨d, h⟩

/-- The input flags when none are given: every letter but the blank is for input. -/
def defaultInputs (size blank : Nat) : Column Bool := Column.ofFn size (· ≠ blank)

/-- Builds a machine from the names of its letters, its blank, its input flags, the names of its
states, its initial state and its table. Letters that are ids are a third as many as the table has
columns, states as many as it has rows. -/
def build [DecidableEq A] [Quoted A] [DecidableEq S] [Quoted S] (letters : Source A) (blank : Nat)
    (inputs? : Option (Column Bool)) (states : Source S) (initial : Nat)
    (transitions : Table Int32) : Except MachineError (TuringMachine A S) :=
  Except.mapError .construction do
    let alphabet ← letters.registry (transitions.cols / 3) .letter
    let states ← states.registry transitions.rows .state
    let inputs := inputs?.getD (defaultInputs alphabet.size blank)
    ofDraft { alphabet, blank, inputs, states, initial, transitions }

/-- Builds a machine whose letters and states are their ids. -/
def byId (blank : Nat) (inputs? : Option (Column Bool)) (initial : Nat)
    (transitions : Table Int32) : Except MachineError (TuringMachine Nat Nat) :=
  build .ids blank inputs? .ids initial transitions

theorem wellFormed (m : TuringMachine A S) : m.toDraft.WellFormed :=
  m.toDraft.fault?_eq_none_iff.1 m.fault?_eq_none

theorem ofDraft_of_wellFormed {d : Draft A S} (h : d.WellFormed) :
    ofDraft d = .ok ⟨d, d.fault?_eq_none_iff.2 h⟩ := by
  unfold ofDraft
  split
  · rename_i fault hfault
    rw [d.fault?_eq_none_iff.2 h] at hfault
    cases hfault
  · rfl

/-- The name of the blank. -/
def blankLetter (m : TuringMachine A S) : A :=
  have : m.blank < m.alphabet.values.size := m.wellFormed.blank_lt
  m.alphabet.values[m.blank]

/-- The name of the initial state. -/
def initialState (m : TuringMachine A S) : S :=
  have : m.initial < m.states.values.size := m.wellFormed.initial_lt
  m.states.values[m.initial]

/-- Tells whether a letter is for input, by its id; an id out of range is not. -/
def isInputById (m : TuringMachine A S) (letter : Nat) : Bool := (m.inputs.get? letter).getD false

/-- Tells whether a letter is for input, by its name; an unknown name is refused. -/
def isInput [DecidableEq A] [Quoted A] (m : TuringMachine A S) (letter : A) :
    Except MachineError Bool := do
  return m.isInputById (← m.alphabet.idOf letter)

/-- The three cells of a state and a letter, read as an action. -/
def action? (m : TuringMachine A S) (state letter : Nat) : Option Action := do
  let next ← Status.ofCode? (← m.transitions.get? state (3 * letter))
  let write ← (← m.transitions.get? state (3 * letter + 1)).toInt.toNat?
  let direction ← Direction.ofCode? (← m.transitions.get? state (3 * letter + 2))
  some { next, write, direction }

/-- Every state has an action under every letter. -/
theorem isSome_action? (m : TuringMachine A S) {state letter : Nat} (hs : state < m.states.size)
    (hl : letter < m.alphabet.size) : (m.action? state letter).isSome := by
  have w := m.wellFormed
  have hr : state < m.transitions.rows := w.rows_eq ▸ hs
  have hc := w.cols_eq
  obtain ⟨next, hnext⟩ := Option.isSome_iff_exists.1
    ((m.transitions.isSome_get?_iff state (3 * letter)).2 ⟨hr, by omega⟩)
  obtain ⟨write, hwrite⟩ := Option.isSome_iff_exists.1
    ((m.transitions.isSome_get?_iff state (3 * letter + 1)).2 ⟨hr, by omega⟩)
  obtain ⟨direction, hdirection⟩ := Option.isSome_iff_exists.1
    ((m.transitions.isSome_get?_iff state (3 * letter + 2)).2 ⟨hr, by omega⟩)
  obtain ⟨status, hstatus⟩ := Status.exists_ofCode?_eq_some (w.next_mem _ hs _ hl _ hnext).1
  obtain ⟨n, hn⟩ := Int.eq_ofNat_of_zero_le (w.write_mem _ hs _ hl _ hwrite).1
  obtain ⟨d, hd⟩ := Option.isSome_iff_exists.1 (w.direction_mem _ hs _ hl _ hdirection)
  simp [action?, hnext, hwrite, hdirection, hstatus, hn, hd, Int.toNat?]

/-- The action of a state under a letter; a state out of range is refused first, then a letter. -/
def action (m : TuringMachine A S) (state letter : Nat) : Except MachineError Action :=
  if hs : state < m.states.size then
    if hl : letter < m.alphabet.size then
      .ok ((m.action? state letter).get (m.isSome_action? hs hl))
    else .error (.outOfRange letter m.alphabet.size)
  else .error (.outOfRange state m.states.size)

/-- The number in the table at a state and a column; indices out of range are refused. -/
def transitionCell (m : TuringMachine A S) (state column : Nat) : Except MachineError Int32 :=
  m.transitions.get state column

theorem valueOf?_blank (m : TuringMachine A S) :
    m.alphabet.valueOf? m.blank = some m.blankLetter :=
  Array.getElem?_eq_getElem _

theorem valueOf?_initial (m : TuringMachine A S) :
    m.states.valueOf? m.initial = some m.initialState :=
  Array.getElem?_eq_getElem _

theorem isInputById_blank (m : TuringMachine A S) : m.isInputById m.blank = false := by
  simp [isInputById, m.wellFormed.inputs_blank]

end TuringMachine

end TableMachines
