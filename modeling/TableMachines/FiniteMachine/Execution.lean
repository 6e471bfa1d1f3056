import TableMachines.FiniteMachine.Basic

/-!
# Executions of finite machines

An execution is at one state of its machine. An operation moves it to a given state or reads
letters, and either succeeds or fails: `FiniteMachine.Run` is the type of such computations, which
carry the id of the present state through failures as well. Reading a word resolves all its letters
before the state changes, so that a letter that is not in the alphabet is found while nothing has
been read. `run_move` says what every operation does to the state.

The word queries `stateIdAfter`, `stateAfter` and `accepts`, and their counterparts by id, run a
fresh execution and report where it ends.
-/

namespace TableMachines

namespace FiniteMachine

variable {A S : Type}

/-- Computations that carry the state id of an execution and may fail. -/
abbrev Run := ExceptT MachineError (StateM Nat)

/-- The id of a letter to be read; a letter that is not in the alphabet cannot be read. -/
def letterId [DecidableEq A] [Quoted A] (m : FiniteMachine A S) (letter : A) :
    Except MachineError Nat :=
  (m.alphabet.idOf letter).mapError fun _ => .invalidLetter (quoted letter)

/-- A letter id to be read; an id out of range cannot be read. -/
def checkLetterId (m : FiniteMachine A S) (letter : Nat) : Except MachineError Nat :=
  if letter < m.alphabet.size then .ok letter else .error (.invalidLetter (quoted letter))

/-- The ids of a word to be read; its first unknown letter is the error. -/
def letterIds [DecidableEq A] [Quoted A] (m : FiniteMachine A S) (word : List A) :
    Except MachineError (List Nat) :=
  word.mapM m.letterId

/-- A word of letter ids to be read; its first id out of range is the error. -/
def checkLetterIds (m : FiniteMachine A S) (word : List Nat) : Except MachineError (List Nat) :=
  word.mapM m.checkLetterId

/-- The state that the table leads to from a state, letter after letter. With ids that have been
checked before, each look-up is the plain reading of a cell (`Table.get_of_lt`). -/
def advance (m : FiniteMachine A S) (state : Nat) (word : List Nat) : Except MachineError Nat :=
  word.foldlM m.transitionById state

/-- Moves the execution to a state computed from the present one. When the computation fails, the
execution stays where it is. -/
def move (target : Nat → Except MachineError Nat) : Run Unit := do
  set (← target (← get))

/-- Goes to a state given by its id; an id out of range is refused. -/
def setStateId (m : FiniteMachine A S) (state : Nat) : Run Unit :=
  move fun _ =>
    if state < m.states.size then .ok state else .error (.outOfRange state m.states.size)

/-- Goes to a state given by its name; an unknown name is refused. -/
def setState [DecidableEq S] [Quoted S] (m : FiniteMachine A S) (state : S) : Run Unit :=
  move fun _ => m.states.idOf state

/-- Reads one letter, given by its id. -/
def readById (m : FiniteMachine A S) (letter : Nat) : Run Unit :=
  move fun state => do m.transitionById state (← m.checkLetterId letter)

/-- Reads one letter. -/
def read [DecidableEq A] [Quoted A] (m : FiniteMachine A S) (letter : A) : Run Unit :=
  move fun state => do m.transitionById state (← m.letterId letter)

/-- Reads a word of letter ids. All ids are checked before the first of them is read. -/
def readWordById (m : FiniteMachine A S) (word : List Nat) : Run Unit :=
  move fun state => do m.advance state (← m.checkLetterIds word)

/-- Reads a word. All its letters are looked up before the first of them is read. -/
def readWord [DecidableEq A] [Quoted A] (m : FiniteMachine A S) (word : List A) : Run Unit :=
  move fun state => do m.advance state (← m.letterIds word)

/-- The operations on an execution, each with its argument. -/
inductive Operation (A S : Type) where
  | setStateId (state : Nat)
  | setState (state : S)
  | read (letter : A)
  | readWord (word : List A)
  | readById (letter : Nat)
  | readWordById (word : List Nat)

/-- The computation of an operation. -/
def perform [DecidableEq A] [Quoted A] [DecidableEq S] [Quoted S] (m : FiniteMachine A S) :
    Operation A S → Run Unit
  | .setStateId state => m.setStateId state
  | .setState state => m.setState state
  | .read letter => m.read letter
  | .readWord word => m.readWord word
  | .readById letter => m.readById letter
  | .readWordById word => m.readWordById word

/-- The result of a run that starts in the initial state. -/
def fromStart {α : Type} (m : FiniteMachine A S) (run : Run α) : Except MachineError α :=
  (run.run m.initial).1

/-- The id of the state reached from the initial state by a word of letter ids. -/
def stateIdAfterById (m : FiniteMachine A S) (word : List Nat) : Except MachineError Nat :=
  m.fromStart do
    m.readWordById word
    get

/-- The name of the state reached from the initial state by a word of letter ids. -/
def stateAfterById (m : FiniteMachine A S) (word : List Nat) : Except MachineError S := do
  m.states.valueOf (← m.stateIdAfterById word)

/-- Tells whether the state reached by a word of letter ids is final. -/
def acceptsById (m : FiniteMachine A S) (word : List Nat) : Except MachineError Bool := do
  m.isFinalById (← m.stateIdAfterById word)

/-- The id of the state reached from the initial state by a word. -/
def stateIdAfter [DecidableEq A] [Quoted A] (m : FiniteMachine A S) (word : List A) :
    Except MachineError Nat :=
  m.fromStart do
    m.readWord word
    get

/-- The name of the state reached from the initial state by a word. -/
def stateAfter [DecidableEq A] [Quoted A] (m : FiniteMachine A S) (word : List A) :
    Except MachineError S := do
  m.states.valueOf (← m.stateIdAfter word)

/-- Tells whether the state reached by a word is final. -/
def accepts [DecidableEq A] [Quoted A] (m : FiniteMachine A S) (word : List A) :
    Except MachineError Bool := do
  m.isFinalById (← m.stateIdAfter word)

theorem run_move (target : Nat → Except MachineError Nat) (state : Nat) :
    (move target).run.run state = match target state with
      | .ok next => (.ok (), next)
      | .error e => (.error e, state) := by
  change ((liftM (target state) : Run Nat) >>= fun next => (set next : Run Unit)).run.run state = _
  generalize target state = result
  cases result <;> rfl

theorem fromStart_move_get (m : FiniteMachine A S) (target : Nat → Except MachineError Nat) :
    m.fromStart (do move target; get) = target m.initial := by
  change ((((liftM (target m.initial) : Run Nat) >>= fun next => (set next : Run Unit)) >>=
    fun _ => (get : Run Nat)).run.run m.initial).1 = _
  generalize target m.initial = result
  cases result <;> rfl

theorem stateIdAfterById_eq (m : FiniteMachine A S) (word : List Nat) :
    m.stateIdAfterById word = (do m.advance m.initial (← m.checkLetterIds word)) :=
  m.fromStart_move_get _

theorem stateIdAfter_eq [DecidableEq A] [Quoted A] (m : FiniteMachine A S) (word : List A) :
    m.stateIdAfter word = (do m.advance m.initial (← m.letterIds word)) :=
  m.fromStart_move_get _

end FiniteMachine

end TableMachines
