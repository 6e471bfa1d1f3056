import TableMachines.Column
import TableMachines.Registry
import TableMachines.Table

/-!
# Finite machines

A deterministic finite machine has an alphabet, states, an initial state, a table with the state
reached from each state under each letter, and one final flag per state. A `FiniteMachine.Draft` is
any such collection of parts; `fault?` finds what is wrong with it, in a fixed order, and a
`FiniteMachine` is a draft without fault. `FiniteMachine.build` goes from names and tables to a
machine, or to the first error.

The queries of this module answer from the tables alone. By id they refuse indices out of range;
with values they look up the state before the letter.
-/

namespace TableMachines

namespace FiniteMachine

/-- The parts of a finite machine, not yet checked. -/
structure Draft (A S : Type) where
  alphabet : Registry A
  states : Registry S
  initial : Nat
  /-- One row per state and one column per letter; a cell is the id of the state reached. -/
  transitions : Table Nat
  finals : Column Bool

namespace Draft

variable {A S : Type}

/-- The initial state has to be a state. -/
def initialFault? (d : Draft A S) : Option BuildError :=
  if d.initial < d.states.size then none
  else some (.initialStateOutOfRange d.initial d.states.size)

/-- The table has to have one row per state and one column per letter. -/
def shapeFault? (d : Draft A S) : Option BuildError :=
  if d.transitions.rows = d.states.size ∧ d.transitions.cols = d.alphabet.size then none
  else some (.tableShape d.states.size d.alphabet.size d.transitions.rows d.transitions.cols)

/-- There has to be one final flag per state. -/
def finalsFault? (d : Draft A S) : Option BuildError :=
  if d.finals.size = d.states.size then none
  else some (.finalsLength d.states.size d.finals.size)

/-- The cell of a state and a letter has to hold a state. -/
def targetFault? (d : Draft A S) (state letter : Nat) : Option BuildError :=
  match d.transitions.get? state letter with
  | none => none
  | some target =>
    if target < d.states.size then none
    else some (.targetOutOfRange state letter target d.states.size)

/-- The first cell in row order that holds no state. -/
def targetsFault? (d : Draft A S) : Option BuildError :=
  (Table.places d.states.size d.alphabet.size).findSome? fun (state, letter) =>
    d.targetFault? state letter

/-- What is wrong with a draft: the first of the faults above, in this order. -/
def fault? (d : Draft A S) : Option BuildError :=
  d.initialFault?.or <| d.shapeFault?.or <| d.finalsFault?.or d.targetsFault?

/-- What makes the parts a machine: the sizes fit together, and the initial state and every cell of
the table are states. -/
structure WellFormed (d : Draft A S) : Prop where
  initial_lt : d.initial < d.states.size
  rows_eq : d.transitions.rows = d.states.size
  cols_eq : d.transitions.cols = d.alphabet.size
  size_finals : d.finals.size = d.states.size
  target_lt : ∀ state letter target,
    d.transitions.get? state letter = some target → target < d.states.size

theorem initialFault?_eq_none_iff (d : Draft A S) :
    d.initialFault? = none ↔ d.initial < d.states.size := by
  simp [initialFault?]

theorem shapeFault?_eq_none_iff (d : Draft A S) : d.shapeFault? = none ↔
    d.transitions.rows = d.states.size ∧ d.transitions.cols = d.alphabet.size := by
  simp [shapeFault?]

theorem finalsFault?_eq_none_iff (d : Draft A S) :
    d.finalsFault? = none ↔ d.finals.size = d.states.size := by
  simp [finalsFault?]

theorem targetFault?_eq_none_iff (d : Draft A S) (state letter : Nat) :
    d.targetFault? state letter = none ↔
      ∀ target, d.transitions.get? state letter = some target → target < d.states.size := by
  unfold targetFault?
  split <;> simp_all

theorem targetsFault?_eq_none_iff (d : Draft A S) : d.targetsFault? = none ↔
    ∀ state < d.states.size, ∀ letter < d.alphabet.size, d.targetFault? state letter = none := by
  simp only [targetsFault?, List.findSome?_eq_none_iff, Prod.forall, Table.mem_places_iff, and_imp]
  exact ⟨fun h s hs l hl => h s l hs hl, fun h s l hs hl => h s hs l hl⟩

/-- A draft has no fault exactly when it is well formed. -/
theorem fault?_eq_none_iff (d : Draft A S) : d.fault? = none ↔ d.WellFormed := by
  simp only [fault?, Option.or_eq_none_iff, initialFault?_eq_none_iff,
    shapeFault?_eq_none_iff, finalsFault?_eq_none_iff, targetsFault?_eq_none_iff,
    targetFault?_eq_none_iff]
  constructor
  · rintro ⟨hinitial, ⟨hrows, hcols⟩, hfinals, htargets⟩
    refine ⟨hinitial, hrows, hcols, hfinals, fun state letter target h => ?_⟩
    obtain ⟨hs, hl⟩ := (d.transitions.isSome_get?_iff state letter).1 (by rw [h]; rfl)
    exact htargets state (hrows ▸ hs) letter (hcols ▸ hl) target h
  · rintro ⟨hinitial, hrows, hcols, hfinals, htargets⟩
    exact ⟨hinitial, ⟨hrows, hcols⟩, hfinals, fun s _ l _ t h => htargets s l t h⟩

end Draft

end FiniteMachine

/-- A deterministic finite machine: a draft without fault. -/
structure FiniteMachine (A S : Type) extends FiniteMachine.Draft A S where
  fault?_eq_none : toDraft.fault? = none

namespace FiniteMachine

variable {A S : Type}

/-- The machine with the parts of a draft, or the first fault of the draft. -/
def ofDraft (d : Draft A S) : Except BuildError (FiniteMachine A S) :=
  match h : d.fault? with
  | some fault => .error fault
  | none => .ok ⟨d, h⟩

/-- Builds a machine from the names of its letters and states, its initial state, its table and its
final flags. Letters that are ids are as many as the table has columns, states as many as it has
rows. -/
def build [DecidableEq A] [Quoted A] [DecidableEq S] [Quoted S] (letters : Source A)
    (states : Source S) (initial : Nat) (transitions : Table Nat) (finals : Column Bool) :
    Except MachineError (FiniteMachine A S) :=
  Except.mapError .construction do
    let alphabet ← letters.registry transitions.cols .letter
    let states ← states.registry transitions.rows .state
    ofDraft { alphabet, states, initial, transitions, finals }

/-- Builds a machine whose letters and states are their ids. -/
def byId (initial : Nat) (transitions : Table Nat) (finals : Column Bool) :
    Except MachineError (FiniteMachine Nat Nat) :=
  build .ids .ids initial transitions finals

theorem wellFormed (m : FiniteMachine A S) : m.toDraft.WellFormed :=
  m.toDraft.fault?_eq_none_iff.1 m.fault?_eq_none

/-- The name of the initial state. -/
def initialState (m : FiniteMachine A S) : S :=
  have : m.initial < m.states.values.size := m.wellFormed.initial_lt
  m.states.values[m.initial]

/-- The state reached from a state under a letter, by id. -/
def transitionById (m : FiniteMachine A S) (state letter : Nat) : Except MachineError Nat :=
  m.transitions.get state letter

/-- Tells whether a state is final, by its id. -/
def isFinalById (m : FiniteMachine A S) (state : Nat) : Except MachineError Bool :=
  m.finals.get state

/-- The state reached from a state under a letter, by name. The state is looked up before the
letter. -/
def transition [DecidableEq A] [Quoted A] [DecidableEq S] [Quoted S] (m : FiniteMachine A S)
    (state : S) (letter : A) : Except MachineError S := do
  let state ← m.states.idOf state
  let letter ← m.alphabet.idOf letter
  m.states.valueOf (← m.transitionById state letter)

/-- Tells whether a state is final, by its name. -/
def isFinal [DecidableEq S] [Quoted S] (m : FiniteMachine A S) (state : S) :
    Except MachineError Bool := do
  m.isFinalById (← m.states.idOf state)

theorem valueOf?_initial (m : FiniteMachine A S) :
    m.states.valueOf? m.initial = some m.initialState :=
  Array.getElem?_eq_getElem _

/-- From a state of the machine, every letter of the alphabet leads to a state of the machine. -/
theorem exists_transitionById_eq_ok (m : FiniteMachine A S) {state letter : Nat}
    (hs : state < m.states.size) (hl : letter < m.alphabet.size) :
    ∃ target < m.states.size, m.transitionById state letter = .ok target := by
  have w := m.wellFormed
  have h := m.transitions.get?_of_lt (w.rows_eq ▸ hs) (w.cols_eq ▸ hl)
  exact ⟨_, w.target_lt _ _ _ h, (m.transitions.get_eq_ok_iff _ _ _).2 h⟩

end FiniteMachine

end TableMachines
