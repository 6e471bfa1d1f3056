import TableMachines.TuringMachine.Execution

/-!
# The textbook machine

The same machines on a tape that is a function of the integers: cells have fixed places, the head is
at one of them, and no window is kept. A step changes the cell under the head, takes the next status
and moves the head; a halted machine stays as it is. `Execution.Shows` relates an execution to the
textbook configuration that it stands for: the status, the number of steps and the tape seen from
the head agree, while the place of the head is forgotten. Executions start that way
(`shows_startOn`), and a step keeps it (`Execution.Shows.step`).
-/

namespace TableMachines

namespace TuringMachine

/-- A moment in the run of the textbook machine. -/
structure Configuration where
  tape : Int → Nat
  head : Int
  status : Status
  stepCount : Nat

/-- The tape with a word on the cells from `0` on and blanks elsewhere. -/
def wordTape (blank : Nat) (word : List Nat) : Int → Nat
  | .ofNat n => word.getD n blank
  | .negSucc _ => blank

variable {A S : Type}

namespace Configuration

/-- The configuration that starts on a word: the head is at `0`, where the word begins. -/
def start (m : TuringMachine A S) (word : List Nat) : Configuration where
  tape := wordTape m.blank word
  head := 0
  status := .running m.initial
  stepCount := 0

/-- The configuration after carrying out an action. -/
def carryOut (c : Configuration) (action : Action) : Configuration where
  tape := fun place => if place = c.head then action.write else c.tape place
  head := c.head + action.direction.offset
  status := action.next
  stepCount := c.stepCount + 1

/-- A step of the textbook machine. Where the table has no action nothing changes. -/
def next (m : TuringMachine A S) (c : Configuration) : Configuration :=
  match c.status with
  | .halted _ => c
  | .running state =>
    match m.action? state (c.tape c.head) with
    | none => c
    | some action => c.carryOut action

end Configuration

/-- An execution stands for a configuration: they agree up to the place of the head. -/
structure Execution.Shows (blank : Nat) (e : Execution) (c : Configuration) : Prop where
  status_eq : e.status = c.status
  stepCount_eq : e.stepCount = c.stepCount
  look_eq : ∀ d, e.tape.look blank d = c.tape (c.head + d)

theorem look_ofWord (blank : Nat) (word : List Nat) (d : Int) :
    (Tape.ofWord blank word).look blank d = wordTape blank word d := by
  match d with
  | .ofNat 0 => cases word <;> rfl
  | .ofNat (n + 1) => cases word <;> rfl
  | .negSucc n => rfl

/-- The execution that starts on a word stands for the configuration that does. -/
theorem shows_startOn (m : TuringMachine A S) (word : List Nat) :
    (m.startOn (.ofWord m.blank word)).Shows m.blank (.start m word) where
  status_eq := rfl
  stepCount_eq := rfl
  look_eq d := by
    change _ = wordTape m.blank word (0 + d)
    rw [Int.zero_add]
    exact look_ofWord m.blank word d

theorem Execution.Shows.carryOut {blank : Nat} {e : Execution} {c : Configuration}
    (h : e.Shows blank c) (action : Action) :
    (e.carryOut blank action).Shows blank (c.carryOut action) where
  status_eq := rfl
  stepCount_eq := by rw [Execution.carryOut, Configuration.carryOut, h.stepCount_eq]
  look_eq d := by
    simp only [Execution.carryOut, Configuration.carryOut, Tape.look_move]
    by_cases hd : d + action.direction.offset = 0
    · rw [hd, Tape.look_write_zero, if_pos (by omega)]
    · rw [Tape.look_write_of_ne hd, h.look_eq, if_neg (by omega)]
      congr 1
      omega

/-- A step of the execution stands for a step of the configuration. -/
theorem Execution.Shows.step {m : TuringMachine A S} {e : Execution} {c : Configuration}
    (h : e.Shows m.blank c) : (m.step e).2.Shows m.blank (c.next m) := by
  have hhead : e.tape.head = c.tape c.head := by simpa using h.look_eq 0
  unfold TuringMachine.step Configuration.next
  rw [← h.status_eq, ← hhead]
  cases e.status with
  | halted halt => exact h
  | running state =>
    cases ha : m.action? state e.tape.head with
    | none => simpa [ha] using h
    | some action => simpa [ha] using h.carryOut action

end TuringMachine

end TableMachines
