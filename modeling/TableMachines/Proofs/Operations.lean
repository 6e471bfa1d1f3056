import Mathlib.Data.Set.List
import TableMachines.Proofs.Automaton

/-!
# Operations on executions

An execution of a finite machine is at a state, and each of its operations is a move: it goes to a
state of the machine, or it fails and stays (`perform_cases`). So the state is one of the machine
after any operations, also when some of them have failed (`stateAfterAll_lt`).

Reading follows the automaton of the machine. Names and ids are read by the same program, with
another lookup for the letters (`Resolves`), and `Reads` lists what this program does in a state. A
word of known letters is read at once as it is letter by letter and part after part. Any other word
is refused for its first unknown letter before anything is read, where letter by letter the known
letters in front of it are read.
-/

namespace TableMachines

namespace FiniteMachine

variable {A S X α β : Type} {m : FiniteMachine A S}

theorem run_bind (run : Run α) (next : α → Run β) (state : Nat) :
    (run >>= next).run.run state = match run.run.run state with
      | (.ok value, middle) => (next value).run.run middle
      | (.error err, middle) => (.error err, middle) := by
  change ((run.run >>= ExceptT.bindCont next : StateM Nat _)).run state = _
  rw [StateT.run_bind]
  rcases run.run.run state with ⟨_ | _, _⟩ <;> rfl

theorem run_move_of_ok {target : Nat → Except MachineError Nat} {state next : Nat}
    (h : target state = .ok next) : (move target).run.run state = (.ok (), next) := by
  rw [run_move, h]

theorem run_move_of_error {target : Nat → Except MachineError Nat} {state : Nat}
    {err : MachineError} (h : target state = .error err) :
    (move target).run.run state = (.error err, state) := by
  rw [run_move, h]

/-! ## Reading with a lookup -/

/-- The letters of the machine go by `name`, and `lookup` finds their ids. It refuses everything
else with the text that `shown` has for it. -/
structure Resolves (m : FiniteMachine A S) (name : Fin m.alphabet.size → X) (shown : X → String)
    (lookup : X → Except MachineError Nat) : Prop where
  eq_ok : ∀ id, lookup (name id) = .ok (id : Nat)
  eq_error : ∀ x ∉ Set.range name, lookup x = .error (.invalidLetter (shown x))

/-- Reads one letter whose id is found by a lookup. -/
def readWith (m : FiniteMachine A S) (lookup : X → Except MachineError Nat) (x : X) : Run Unit :=
  move fun state => do m.transitionById state (← lookup x)

/-- Reads a word whose letters are all looked up before the first of them is read. -/
def readWordWith (m : FiniteMachine A S) (lookup : X → Except MachineError Nat) (word : List X) :
    Run Unit :=
  move fun state => do m.advance state (← word.mapM lookup)

/-- What reading does in a state, one letter at a time and in words. The letters of the machine go
by `name`, its automaton says where they lead, and `shown` is the text that an unknown letter is
reported with. -/
structure Reads (m : FiniteMachine A S) (name : Fin m.alphabet.size → X) (shown : X → String)
    (read : X → Run Unit) (readWord : List X → Run Unit) (state : Fin m.states.size) : Prop where
  run_read : ∀ id, (read (name id)).run.run state = (.ok (), (m.automaton.step state id : Nat))
  read_refuses : ∀ x ∉ Set.range name,
    (read x).run.run state = (.error (.invalidLetter (shown x)), (state : Nat))
  /-- A word succeeds when all its letters are known, and in no other case. -/
  succeeds_iff : ∀ word,
    ((readWord word).run.run state).1 = .ok () ↔ ∀ x ∈ word, x ∈ Set.range name
  run_readWord : ∀ ids : List (Fin m.alphabet.size),
    (readWord (ids.map name)).run.run state = (.ok (), (m.automaton.evalFrom state ids : Nat))
  run_forM : ∀ ids : List (Fin m.alphabet.size),
    (forM (ids.map name) read).run.run state = (.ok (), (m.automaton.evalFrom state ids : Nat))
  run_append : ∀ u v : List (Fin m.alphabet.size),
    (readWord (u.map name ++ v.map name)).run.run state =
      (do readWord (u.map name); readWord (v.map name) : Run Unit).run.run state
  readWord_refuses : ∀ word x, FirstOutside (· ∈ Set.range name) word x →
    (readWord word).run.run state = (.error (.invalidLetter (shown x)), (state : Nat))
  /-- Letter by letter, the known letters in front of an unknown one have been read. -/
  forM_refuses : ∀ ids x rest, x ∉ Set.range name →
    (forM (ids.map name ++ x :: rest) read).run.run state =
      (.error (.invalidLetter (shown x)), (m.automaton.evalFrom state ids : Nat))

namespace Resolves

variable {name : Fin m.alphabet.size → X} {shown : X → String}
  {lookup : X → Except MachineError Nat} {state : Fin m.states.size} {word : List X} {x : X}

theorem run_readWith (h : m.Resolves name shown lookup) (state : Fin m.states.size)
    (id : Fin m.alphabet.size) : (m.readWith lookup (name id)).run.run state =
      (.ok (), (m.automaton.step state id : Nat)) := by
  refine run_move_of_ok ?_
  rw [h.eq_ok]
  exact transitionById_eq_step state id

theorem run_readWith_of_notMem (h : m.Resolves name shown lookup) (hx : x ∉ Set.range name)
    (state : Nat) : (m.readWith lookup x).run.run state =
      (.error (.invalidLetter (shown x)), state) := by
  refine run_move_of_error ?_
  rw [h.eq_error x hx]
  rfl

theorem mapM_map (h : m.Resolves name shown lookup) (ids : List (Fin m.alphabet.size)) :
    (ids.map name).mapM lookup = .ok (ids.map Fin.val) := by
  rw [mapM_eq_ok_iff, List.map_map, List.map_map]
  exact List.map_congr_left fun id _ => h.eq_ok id

theorem run_readWordWith (h : m.Resolves name shown lookup) (state : Fin m.states.size)
    (ids : List (Fin m.alphabet.size)) : (m.readWordWith lookup (ids.map name)).run.run state =
      (.ok (), (m.automaton.evalFrom state ids : Nat)) := by
  refine run_move_of_ok ?_
  rw [h.mapM_map]
  exact advance_eq_evalFrom state ids

/-- The letters are resolved before the first is read. -/
theorem run_readWordWith_of_firstOutside (h : m.Resolves name shown lookup)
    (hx : FirstOutside (· ∈ Set.range name) word x) (state : Nat) :
    (m.readWordWith lookup word).run.run state = (.error (.invalidLetter (shown x)), state) := by
  have hresolved : ∀ y, y ∈ Set.range name → ∃ id, lookup y = .ok id := by
    rintro y ⟨id, rfl⟩
    exact ⟨id, h.eq_ok id⟩
  refine run_move_of_error ?_
  rw [hx.mapM_eq_error hresolved (h.eq_error x hx.not)]
  rfl

/-- One by one, known letters are read up to the next one. -/
theorem run_forM_append (h : m.Resolves name shown lookup) (state : Fin m.states.size)
    (ids : List (Fin m.alphabet.size)) (rest : List X) :
    (forM (ids.map name ++ rest) (m.readWith lookup)).run.run state =
      (forM rest (m.readWith lookup)).run.run (m.automaton.evalFrom state ids : Nat) := by
  induction ids generalizing state with
  | nil => rfl
  | cons id ids ih =>
    rw [List.map_cons, List.cons_append, List.forM_cons, run_bind, h.run_readWith]
    exact ih _

theorem run_readWordWith_eq_ok_iff (h : m.Resolves name shown lookup) :
    ((m.readWordWith lookup word).run.run state).1 = .ok () ↔ ∀ x ∈ word, x ∈ Set.range name := by
  constructor
  · intro hok
    rcases forall_or_exists_firstOutside (· ∈ Set.range name) word with hall | ⟨x, hx⟩
    · exact hall
    · rw [h.run_readWordWith_of_firstOutside hx] at hok
      cases hok
  · intro hall
    obtain ⟨ids, rfl⟩ : word ∈ Set.range (List.map name) := by
      rw [Set.range_list_map]
      exact hall
    rw [h.run_readWordWith]

theorem reads (h : m.Resolves name shown lookup) (state : Fin m.states.size) :
    m.Reads name shown (m.readWith lookup) (m.readWordWith lookup) state where
  run_read := h.run_readWith state
  read_refuses _ hx := h.run_readWith_of_notMem hx state
  succeeds_iff _ := h.run_readWordWith_eq_ok_iff
  run_readWord := h.run_readWordWith state
  run_forM ids := by
    have hforM := h.run_forM_append state ids []
    rwa [List.append_nil] at hforM
  run_append u v := by
    rw [← List.map_append, h.run_readWordWith, DFA.evalFrom_of_append, run_bind,
      h.run_readWordWith]
    exact (h.run_readWordWith _ v).symm
  readWord_refuses _ _ hx := h.run_readWordWith_of_firstOutside hx state
  forM_refuses ids x rest hx := by
    rw [h.run_forM_append, List.forM_cons, run_bind, h.run_readWith_of_notMem hx]

end Resolves

theorem resolves_checkLetterId (m : FiniteMachine A S) :
    m.Resolves Fin.val toString m.checkLetterId where
  eq_ok id := checkLetterId_of_lt id.isLt
  eq_error x hx := checkLetterId_of_le fun hlt => hx ⟨⟨x, hlt⟩, rfl⟩

/-- The name of a letter. -/
def letter (m : FiniteMachine A S) (id : Fin m.alphabet.size) : A := m.alphabet.values[id]

theorem valueOf?_letter (id : Fin m.alphabet.size) :
    m.alphabet.valueOf? id = some (m.letter id) :=
  Array.getElem?_eq_getElem _

theorem mem_range_letter_iff {x : A} : x ∈ Set.range m.letter ↔ x ∈ m.alphabet.toList := by
  constructor
  · rintro ⟨id, rfl⟩
    exact Array.mem_toList_iff.2 (Array.getElem_mem _)
  · intro h
    obtain ⟨i, hi, rfl⟩ := List.getElem_of_mem h
    exact ⟨⟨i, by simpa using hi⟩, rfl⟩

theorem resolves_letterId [DecidableEq A] [Quoted A] (m : FiniteMachine A S) :
    m.Resolves m.letter quoted m.letterId where
  eq_ok id := (m.letterId_eq_ok_iff _ _).2 (valueOf?_letter id)
  eq_error _ hx := letterId_eq_error (mem_range_letter_iff.not.1 hx)

/-! ## The range of the state -/

theorem transitionById_lt {state letter next : Nat} (h : m.transitionById state letter = .ok next) :
    next < m.states.size :=
  m.wellFormed.target_lt _ _ _ ((m.transitions.get_eq_ok_iff _ _ _).1 h)

theorem advance_lt {state next : Nat} {word : List Nat} (hs : state < m.states.size)
    (h : m.advance state word = .ok next) : next < m.states.size := by
  induction word generalizing state with
  | nil =>
    cases h
    exact hs
  | cons letter word ih =>
    rw [advance_cons] at h
    obtain ⟨middle, hmiddle, hrest⟩ := bind_eq_ok_iff.1 h
    exact ih (transitionById_lt hmiddle) hrest

variable [DecidableEq A] [Quoted A] [DecidableEq S] [Quoted S]

/-- Every operation is a move between states of the machine. -/
theorem exists_perform_eq_move (m : FiniteMachine A S) (op : Operation A S) :
    ∃ target, m.perform op = move target ∧
      ∀ state < m.states.size, ∀ next, target state = .ok next → next < m.states.size := by
  have hread {X : Type} (lookup : X → Except MachineError Nat) (x : X) (state next : Nat)
      (h : (do m.transitionById state (← lookup x)) = .ok next) : next < m.states.size := by
    obtain ⟨id, -, hstep⟩ := bind_eq_ok_iff.1 h
    exact transitionById_lt hstep
  have hreadWord {X : Type} (lookup : X → Except MachineError Nat) (word : List X) (state : Nat)
      (hs : state < m.states.size) (next : Nat)
      (h : (do m.advance state (← word.mapM lookup)) = .ok next) : next < m.states.size := by
    obtain ⟨ids, -, hadvance⟩ := bind_eq_ok_iff.1 h
    exact advance_lt hs hadvance
  cases op with
  | setStateId id =>
    refine ⟨_, rfl, fun state _ next h => ?_⟩
    split at h
    · cases h
      assumption
    · cases h
  | setState name =>
    refine ⟨_, rfl, fun state _ next h => ?_⟩
    exact Registry.lt_size_of_valueOf?_eq_some ((m.states.idOf_eq_ok_iff name next).1 h)
  | read x => exact ⟨_, rfl, fun state _ next h => hread m.letterId x state next h⟩
  | readWord word => exact ⟨_, rfl, hreadWord m.letterId word⟩
  | readById x => exact ⟨_, rfl, fun state _ next h => hread m.checkLetterId x state next h⟩
  | readWordById word => exact ⟨_, rfl, hreadWord m.checkLetterId word⟩

/-- In a state of the machine, an operation goes to a state of the machine, or it fails and
stays. -/
theorem perform_cases (op : Operation A S) {state : Nat} (hs : state < m.states.size) :
    (∃ next < m.states.size, (m.perform op).run.run state = (.ok (), next)) ∨
      ∃ err, (m.perform op).run.run state = (.error err, state) := by
  obtain ⟨target, hmove, hlt⟩ := m.exists_perform_eq_move op
  rw [hmove]
  cases htarget : target state with
  | ok next => exact Or.inl ⟨next, hlt state hs next htarget, run_move_of_ok htarget⟩
  | error err => exact Or.inr ⟨err, run_move_of_error htarget⟩

theorem perform_of_error {op : Operation A S} {state : Nat} (hs : state < m.states.size)
    {err : MachineError} (h : ((m.perform op).run.run state).1 = .error err) :
    ((m.perform op).run.run state).2 = state := by
  rcases perform_cases op hs with ⟨next, -, hrun⟩ | ⟨err', hrun⟩
  · rw [hrun] at h
    cases h
  · rw [hrun]

/-! ## Runs of operations -/

/-- The state that operations lead to, one after another. An operation that fails is not the end:
the next one is performed in the state that it leaves. -/
def stateAfterAll (m : FiniteMachine A S) (ops : List (Operation A S)) (state : Nat) : Nat :=
  ops.foldl (fun state op => ((m.perform op).run.run state).2) state

theorem stateAfterAll_lt (ops : List (Operation A S)) {state : Nat} (hs : state < m.states.size) :
    m.stateAfterAll ops state < m.states.size := by
  induction ops generalizing state with
  | nil => exact hs
  | cons op ops ih =>
    rw [stateAfterAll, List.foldl_cons]
    rcases perform_cases op hs with ⟨next, hnext, hrun⟩ | ⟨err, hrun⟩
    · rw [hrun]
      exact ih hnext
    · rw [hrun]
      exact ih hs

/-- After any operations an execution is at a state of its machine. There an operation that fails
leaves the state as it was, names are read and reported as their debug texts, and ids are read and
reported in decimal. -/
theorem operations_follow_automaton (m : FiniteMachine A S) (ops : List (Operation A S)) :
    ∃ state : Fin m.states.size, m.stateAfterAll ops m.initial = state ∧
      (∀ op err, ((m.perform op).run.run state).1 = .error err →
        ((m.perform op).run.run state).2 = state) ∧
      (∀ x, x ∈ Set.range m.letter ↔ x ∈ m.alphabet.toList) ∧
      m.Reads m.letter quoted (fun x => m.perform (.read x))
        (fun word => m.perform (.readWord word)) state ∧
      m.Reads Fin.val toString (fun id => m.perform (.readById id))
        (fun word => m.perform (.readWordById word)) state := by
  have hs := m.stateAfterAll_lt ops m.initial_lt_size
  exact ⟨⟨_, hs⟩, rfl, fun _ _ => perform_of_error hs, fun _ => mem_range_letter_iff,
    m.resolves_letterId.reads _, m.resolves_checkLetterId.reads _⟩

end FiniteMachine

end TableMachines
