import TableMachines.Stepper
import TableMachines.Tape
import TableMachines.TuringMachine.Basic

/-!
# Executions of Turing machines

An execution is a tape, a status and the number of steps made so far. It starts on a word of input
letters in the initial state. A step of a running machine writes, takes the next status and moves
the head as the action of its state and letter says; a halted machine makes no step and reports its
halt again. The runs of `Stepper` give several steps at once.

The text of an execution lists the letter ids of the tape's window; in the full text the cell under
the head is marked with the code of the status.
-/

namespace TableMachines

namespace TuringMachine

/-- A moment in the run of a Turing machine. -/
structure Execution where
  tape : Tape
  status : Status
  stepCount : Nat
  deriving DecidableEq, Repr

variable {A S : Type}

/-- The execution that starts on a tape, in the initial state and with no step made. -/
def startOn (m : TuringMachine A S) (tape : Tape) : Execution where
  tape := tape
  status := .running m.initial
  stepCount := 0

/-- The execution that starts on a word of letter ids; the first id that is not for input is
refused. -/
def startById (m : TuringMachine A S) (word : List Nat) : Except MachineError Execution :=
  match word.find? (!m.isInputById ·) with
  | some letter => .error (.notInputLetter letter)
  | none => .ok (m.startOn (.ofWord m.blank word))

/-- The execution that starts on a word. An unknown letter is refused before any that is not for
input. -/
def start [DecidableEq A] [Quoted A] (m : TuringMachine A S) (word : List A) :
    Except MachineError Execution := do
  m.startById (← word.mapM m.alphabet.idOf)

/-- The execution that starts on the blank tape. -/
def startBlank (m : TuringMachine A S) : Execution := m.startOn (.ofWord m.blank [])

/-- The execution after carrying out an action. -/
def Execution.carryOut (blank : Nat) (e : Execution) (action : Action) : Execution where
  tape := (e.tape.write action.write).move blank action.direction
  status := action.next
  stepCount := e.stepCount + 1

/-- Makes a step. Where the table has no action for the state and the letter, the execution rests;
none is missing while both are in range (`isSome_action?`). -/
def step (m : TuringMachine A S) (e : Execution) : Outcome × Execution :=
  match e.status with
  | .halted h => (.halt h, e)
  | .running state =>
    match m.action? state e.tape.head with
    | none => (.goesOn, e)
    | some action => (action.next.outcome, e.carryOut m.blank action)

/-- The machine as a stepper on its executions. -/
def stepper (m : TuringMachine A S) : Stepper Execution where
  step := m.step
  outcome e := e.status.outcome

/-- Makes up to `n` steps and stops early at a halt. -/
def manySteps (m : TuringMachine A S) (n : Nat) (e : Execution) : Outcome × Execution :=
  m.stepper.many n e

/-- Runs to the halt, if the machine halts within `fuel` steps. -/
def runToHalt? (m : TuringMachine A S) (fuel : Nat) (e : Execution) : Option (Halt × Execution) :=
  m.stepper.toHalt? fuel e

/-- Tells whether the machine accepts a word of letter ids, if it halts within `fuel` steps. -/
def acceptsById? (m : TuringMachine A S) (fuel : Nat) (word : List Nat) :
    Except MachineError (Option Bool) := do
  let e ← m.startById word
  return (m.runToHalt? fuel e).map fun run => run.1.isAccept

/-- Tells whether the machine accepts a word, if it halts within `fuel` steps. -/
def accepts? [DecidableEq A] [Quoted A] (m : TuringMachine A S) (fuel : Nat) (word : List A) :
    Except MachineError (Option Bool) := do
  let e ← m.start word
  return (m.runToHalt? fuel e).map fun run => run.1.isAccept

/-- The letters in the tape's window. -/
def tapeLetters (m : TuringMachine A S) (e : Execution) : List A :=
  e.tape.cells.filterMap m.alphabet.valueOf?

/-- The letter under the head. -/
def letterUnderHead? (m : TuringMachine A S) (e : Execution) : Option A :=
  m.alphabet.valueOf? e.tape.head

/-- The name of the state, while the machine is running. -/
def state? (m : TuringMachine A S) (e : Execution) : Option S :=
  e.status.state?.bind m.states.valueOf?

namespace Execution

/-- The letter ids in the tape's window, with spaces between. -/
def tapeText (e : Execution) : String := " ".intercalate (e.tape.cells.map toString)

/-- The letter ids in the tape's window, with spaces between and the code of the status in front of
the one under the head. -/
def fullText (e : Execution) : String :=
  " ".intercalate <| e.tape.left.reverse.map toString ++
    s!"[{e.status.code}]>{e.tape.head}" :: e.tape.right.map toString

end Execution

theorem step_of_halted {m : TuringMachine A S} {e : Execution} {h : Halt}
    (hs : e.status = .halted h) : m.step e = (.halt h, e) := by
  simp [step, hs]

theorem step_of_running {m : TuringMachine A S} {e : Execution} {state : Nat} {action : Action}
    (hs : e.status = .running state) (ha : m.action? state e.tape.head = some action) :
    m.step e = (action.next.outcome, e.carryOut m.blank action) := by
  simp [step, hs, ha]

end TuringMachine

end TableMachines
