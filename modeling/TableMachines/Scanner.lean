import TableMachines.FiniteMachine.Basic
import TableMachines.TuringMachine.Basic

/-!
# Compiling finite machines

A finite machine compiles to a Turing machine with the same states and one more letter, the blank.
This scanner walks to the right over its input, changes no letter, takes the transitions of the
finite machine, and halts on the first blank: it accepts in a final state and rejects in any other.

The cells of its table are 32-bit words, and an id is stored in a cell as the word it is congruent
to. With letters and states that are ids the blank is the next letter id; with named letters every
letter `a` becomes `some a` and the blank is `none`.
-/

namespace TableMachines

namespace FiniteMachine

variable {A S : Type}

/-- The halt of the scanner on a blank. -/
def scannerHalt (m : FiniteMachine A S) (state : Nat) : Halt :=
  if m.finals.get? state = some true then .accept else .reject

/-- The cell of the scanner's table at a state and a column. The letter of the column is a letter of
the machine, unless it is the blank, which has no transition. -/
def scannerCell (m : FiniteMachine A S) (state column : Nat) : Int32 :=
  match column % 3 with
  | 0 =>
    match m.transitions.get? state (column / 3) with
    | some target => Int32.ofNat target
    | none => (m.scannerHalt state).code
  | 1 => Int32.ofNat (column / 3)
  | _ => Direction.right.code

/-- The scanner's table: one row per state, and three columns for each letter and for the blank. -/
def scannerTable (m : FiniteMachine A S) : Table Int32 :=
  .ofFn m.states.size (3 * (m.alphabet.size + 1)) m.scannerCell

/-- The scanner with letters and states that are ids. -/
def compileById (m : FiniteMachine A S) : Except MachineError (TuringMachine Nat Nat) :=
  TuringMachine.byId m.alphabet.size none m.initial m.scannerTable

/-- The letters of the scanner: those of the machine, and the blank after them. -/
def scannerLetters (m : FiniteMachine A S) : List (Option A) := m.alphabet.toList.map some ++ [none]

/-- The scanner with the letters and states of the machine. -/
def compile [DecidableEq A] [Quoted A] [DecidableEq S] [Quoted S] (m : FiniteMachine A S) :
    Except MachineError (TuringMachine (Option A) S) :=
  TuringMachine.build (.listed m.scannerLetters) m.alphabet.size none (.listed m.states.toList)
    m.initial m.scannerTable

end FiniteMachine

end TableMachines
