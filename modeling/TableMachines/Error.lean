/-!
# Errors

`BuildError` lists what can be wrong with a table, a registry or the parts of a machine;
`MachineError` adds what can be wrong with a request to a finished machine. Every constructor keeps
the numbers its message shows, so two errors are equal exactly when they report the same fact.
-/

namespace TableMachines

/-- What can be wrong with a table, a registry or the parts of a machine. -/
inductive BuildError where
  /-- A letter, given in quotes, occurs twice in an alphabet. -/
  | duplicateLetter (text : String)
  | duplicateState (text : String)
  | initialStateOutOfRange (state count : Nat)
  | blankOutOfRange (blank size : Nat)
  | emptyTapeAlphabet
  | noStates
  | tableShape (expectedRows expectedCols foundRows foundCols : Nat)
  | raggedRows (row expected found : Nat)
  | finalsLength (expected found : Nat)
  | inputsLength (expected found : Nat)
  | blankInInputs
  | targetOutOfRange (state letter target count : Nat)
  | nextOutOfRange (state letter : Nat) (value : Int32) (count : Nat)
  | writeOutOfRange (state letter : Nat) (value : Int32) (size : Nat)
  | directionOutOfRange (state letter : Nat) (value : Int32)
  deriving DecidableEq, Repr

/-- What can be wrong with a request to a machine, or with building one. -/
inductive MachineError where
  | construction (cause : BuildError)
  | unknownLetter (text : String)
  | unknownState (text : String)
  /-- A finite machine was asked to read a letter it does not have. -/
  | invalidLetter (text : String)
  /-- An input word of a Turing machine contains a letter that is not for input. -/
  | notInputLetter (letter : Nat)
  | outOfRange (index length : Nat)
  deriving DecidableEq, Repr

namespace BuildError

/-- The sentence that reports the error. -/
def message : BuildError → String
  | duplicateLetter text => s!"Duplicated letter in alphabet: {text}"
  | duplicateState text => s!"Duplicated state in states: {text}"
  | initialStateOutOfRange state count =>
    s!"Initial state ({state}) is out of range, it should be in [0, {count})"
  | blankOutOfRange blank size =>
    s!"Blank symbol ({blank}) is out of range, it should be in [0, {size})"
  | emptyTapeAlphabet => "Tape alphabet must contain at least one letter"
  | noStates => "A machine must have at least one state"
  | tableShape expectedRows expectedCols foundRows foundCols =>
    s!"Transition table is {foundRows}x{foundCols}, expected {expectedRows}x{expectedCols}"
  | raggedRows row expected found => s!"Row {row} has {found} columns, expected {expected}"
  | finalsLength expected found =>
    s!"Final state vector has length {found}, expected {expected}"
  | inputsLength expected found =>
    s!"Input alphabet vector has length {found}, expected {expected}"
  | blankInInputs => "Blank symbol must not be part of the input alphabet"
  | targetOutOfRange state letter target count =>
    s!"Transition from state {state} on letter {letter} references state {target}, " ++
      s!"expected [0, {count})"
  | nextOutOfRange state letter value count =>
    s!"Transition from state {state} on letter {letter} references state {value.toInt}, " ++
      s!"expected [-2, {count})"
  | writeOutOfRange state letter value size =>
    s!"Transition from state {state} on letter {letter} writes letter {value.toInt}, " ++
      s!"expected [0, {size})"
  | directionOutOfRange state letter value =>
    s!"Transition from state {state} on letter {letter} has direction {value.toInt}, " ++
      "expected -1, 0 or 1"

end BuildError

namespace MachineError

/-- The sentence that reports the error; what is wrong with a definition is named after a colon. -/
def message : MachineError → String
  | construction cause => s!"Invalid machine definition: {cause.message}"
  | unknownLetter text => s!"Unknown symbol: {text}"
  | unknownState text => s!"Unknown state: {text}"
  | invalidLetter text => s!"Invalid letter: {text}"
  | notInputLetter letter => s!"Letter {letter} is not in the input alphabet"
  | outOfRange index length => s!"Index {index} is out of range for length {length}"

/-- What was wrong with the parts, if building a machine was refused for them. -/
def cause? : MachineError → Option BuildError
  | construction cause => some cause
  | _ => none

end MachineError

end TableMachines
