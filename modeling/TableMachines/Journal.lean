import TableMachines.FiniteMachine.Basic
import TableMachines.TuringMachine.Execution

/-!
# Journals

An event is something worth noting: a machine was built or compiled, a Turing machine made a step or
halted. Building is noted when it succeeds, compiling as soon as the scanner's table is written. A
`Recorded` execution carries the events of its steps: each step is noted with the execution it led
to, and the halt right after the step that halted. A halted machine makes no step, so nothing is
noted after its halt. Noting changes no run (`many_recorder`, `toHalt?_recorder`).
-/

namespace TableMachines

/-- How much detail an event adds. -/
inductive Level where
  | debug
  | trace
  deriving DecidableEq, Repr

/-- The name of the level as it stands in a log. -/
def Level.name : Level → String
  | debug => "DEBUG"
  | trace => "TRACE"

/-- Something worth noting. -/
inductive Event where
  | builtFinite (letters states : Nat)
  | builtTuring (letters states : Nat)
  | compiled (states : Nat)
  | stepped (after : TuringMachine.Execution)
  | halted (steps : Nat) (halt : Halt)
  deriving DecidableEq, Repr

namespace Event

/-- Steps are details, all else is not. -/
def level : Event → Level
  | stepped _ => .trace
  | _ => .debug

/-- The sentence that reports the event. -/
def text : Event → String
  | builtFinite letters states =>
    s!"Built finite state machine with {letters} letters and {states} states"
  | builtTuring letters states =>
    s!"Built Turing Machine with {letters} tape letters and {states} states"
  | compiled states => s!"Compiled finite state machine with {states} states into a Turing Machine"
  | stepped after => s!"step {after.stepCount}: {after.fullText}"
  | halted steps halt => s!"Turing Machine halted after {steps} steps: {halt.name}"

end Event

/-- The events of building a Turing machine with a given result; a refusal is not noted. -/
def TuringMachine.buildEvents {A S : Type} : Except MachineError (TuringMachine A S) → List Event
  | .ok m => [.builtTuring m.alphabet.size m.states.size]
  | .error _ => []

namespace FiniteMachine

variable {A S B T : Type}

/-- The events of building a finite machine with a given result; a refusal is not noted. -/
def buildEvents : Except MachineError (FiniteMachine A S) → List Event
  | .ok m => [.builtFinite m.alphabet.size m.states.size]
  | .error _ => []

/-- The events of compiling a finite machine with a given result: the scanner is built after the
compilation is noted. -/
def compileEvents (m : FiniteMachine A S) (result : Except MachineError (TuringMachine B T)) :
    List Event :=
  .compiled m.states.size :: TuringMachine.buildEvents result

end FiniteMachine

namespace TuringMachine

variable {A S : Type}

/-- The events of a step from one execution to another. -/
def Execution.stepEvents (before after : Execution) : List Event :=
  match before.status, after.status with
  | .halted _, _ => []
  | .running _, .running _ => [.stepped after]
  | .running _, .halted h => [.stepped after, .halted after.stepCount h]

/-- An execution with the events of its steps so far. -/
structure Recorded where
  execution : Execution
  events : Array Event
  deriving DecidableEq, Repr

/-- Makes a step and appends its events. -/
def recordStep (m : TuringMachine A S) (r : Recorded) : Outcome × Recorded :=
  let (outcome, after) := m.step r.execution
  (outcome, ⟨after, r.events ++ r.execution.stepEvents after⟩)

/-- Recorded executions as a stepper: the steps of the machine, with their events noted. -/
def recorder (m : TuringMachine A S) : Stepper Recorded where
  step := m.recordStep
  outcome r := r.execution.status.outcome

/-- Noting events does not change what `n` steps do. -/
theorem many_recorder (m : TuringMachine A S) (n : Nat) (r : Recorded) :
    m.manySteps n r.execution =
      ((m.recorder.many n r).1, (m.recorder.many n r).2.execution) :=
  Stepper.many_map Recorded.execution (fun _ => rfl) (fun _ => rfl) n r

/-- Noting events does not change a run to the halt. -/
theorem toHalt?_recorder (m : TuringMachine A S) (fuel : Nat) (r : Recorded) :
    m.runToHalt? fuel r.execution =
      (m.recorder.toHalt? fuel r).map fun run => (run.1, run.2.execution) :=
  Stepper.toHalt?_map Recorded.execution (fun _ => rfl) fuel r

end TuringMachine

end TableMachines
