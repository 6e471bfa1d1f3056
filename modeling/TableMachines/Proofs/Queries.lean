import TableMachines.Proofs.Automaton
import TableMachines.Proofs.BuildFinite

/-!
# Queries by name and by id

A finite machine answers queries about words and about single states and letters, with names and
with ids. The queries about a word are `Answers`: all of them are read off the state that the word
leads to (`Answers.ofStateId`), which is why they succeed and fail together, and why those about a
word of names are those about its ids (`answers_eq_answersById`). A transition between named states
is looked up through the ids of its state and its letter, in this order (`transition_eq`,
`transition_eq_error_of_state`, `transition_eq_error_of_letter`).

Once states and letters are known, their ids are inside the table and need no check any more. So
these queries are answered by the automaton of the machine, which reads the cells without one
(`transitionById_eq_step`): a word leads to its state there (`exists_answersById_eq_success`), and a
transition is one of its steps (`transition_eq`).
-/

namespace TableMachines

namespace FiniteMachine

variable {A S : Type} {m : FiniteMachine A S} {ids : List Nat}

/-! ## Words -/

/-- What the queries about a word say: the state that it leads to, by id and by name, and whether it
is accepted. -/
structure Answers (S : Type) where
  stateId : Except MachineError Nat
  state : Except MachineError S
  accepted : Except MachineError Bool

namespace Answers

/-- The answers for a word that leads to a state of the machine. -/
def success (target : Nat) (name : S) (final : Bool) : Answers S :=
  ⟨.ok target, .ok name, .ok final⟩

/-- The answers for a word that is refused: all of them are the same error. -/
def failure (err : MachineError) : Answers S := ⟨.error err, .error err, .error err⟩

/-- The answers that follow from the id of the state. -/
def ofStateId (m : FiniteMachine A S) (stateId : Except MachineError Nat) : Answers S where
  stateId := stateId
  state := stateId >>= m.states.valueOf
  accepted := stateId >>= m.isFinalById

/-- Each of the queries succeeds under the condition and in no other case. -/
structure SucceedIff (answers : Answers S) (condition : Prop) : Prop where
  stateId : (∃ target, answers.stateId = .ok target) ↔ condition
  state : (∃ name, answers.state = .ok name) ↔ condition
  accepted : (∃ final, answers.accepted = .ok final) ↔ condition

variable {answers : Answers S} {condition : Prop}

theorem SucceedIff.of_success {target : Nat} {name : S} {final : Bool}
    (h : answers = success target name final) (hcondition : condition) :
    answers.SucceedIff condition := by
  subst h
  exact ⟨⟨fun _ => hcondition, fun _ => ⟨target, rfl⟩⟩,
    ⟨fun _ => hcondition, fun _ => ⟨name, rfl⟩⟩, ⟨fun _ => hcondition, fun _ => ⟨final, rfl⟩⟩⟩

theorem SucceedIff.of_failure {err : MachineError} (h : answers = failure err)
    (hcondition : ¬ condition) : answers.SucceedIff condition := by
  subst h
  constructor <;> simp [failure, hcondition]

/-- From a state of the machine all answers follow. -/
theorem exists_ofStateId_eq_success {target : Nat} (h : target < m.states.size) :
    ∃ name final, m.states.valueOf? target = some name ∧ m.isFinalById target = .ok final ∧
      ofStateId m (.ok target) = success target name final := by
  obtain ⟨name, hname⟩ := Registry.exists_valueOf?_eq_some h
  obtain ⟨final, hfinal⟩ := m.exists_isFinalById_eq_ok h
  have hstate : m.states.valueOf target = .ok name := (m.states.valueOf_eq_ok_iff _ _).2 hname
  refine ⟨name, final, hname, hfinal, ?_⟩
  change Answers.mk (.ok target) (m.states.valueOf target) (m.isFinalById target) = _
  rw [hstate, hfinal, success]

end Answers

/-- What the machine answers about a word of letter ids. -/
def answersById (m : FiniteMachine A S) (ids : List Nat) : Answers S where
  stateId := m.stateIdAfterById ids
  state := m.stateAfterById ids
  accepted := m.acceptsById ids

theorem answersById_eq_ofStateId (m : FiniteMachine A S) (ids : List Nat) :
    m.answersById ids = .ofStateId m (m.stateIdAfterById ids) := rfl

/-- A word of letter ids leads through the automaton to a state, which gives the answers. -/
theorem exists_answersById_eq_success (word : List (Fin m.alphabet.size)) :
    ∃ name final, m.states.valueOf? (m.automaton.eval word) = some name ∧
      m.isFinalById (m.automaton.eval word) = .ok final ∧
      m.answersById (word.map Fin.val) = .success (m.automaton.eval word) name final := by
  obtain ⟨name, final, hname, hfinal, hanswers⟩ :=
    Answers.exists_ofStateId_eq_success (m.automaton.eval word).isLt
  refine ⟨name, final, hname, hfinal, ?_⟩
  rw [answersById_eq_ofStateId, stateIdAfterById_eq_eval, hanswers]

theorem exists_answersById_eq_success_of_forall (h : ∀ id ∈ ids, id < m.alphabet.size) :
    ∃ target name final, ids.foldlM m.transitionById m.initial = .ok target ∧
      m.states.valueOf? target = some name ∧ m.isFinalById target = .ok final ∧
      m.answersById ids = .success target name final := by
  lift ids to List (Fin m.alphabet.size) using h
  obtain ⟨name, final, hname, hfinal, hanswers⟩ := exists_answersById_eq_success ids
  exact ⟨_, name, final, advance_eq_evalFrom m.automaton.start ids, hname, hfinal, hanswers⟩

theorem answersById_eq_failure {id : Nat} (h : FirstOutside (· < m.alphabet.size) ids id) :
    m.answersById ids = .failure (.invalidLetter (toString id)) := by
  rw [answersById_eq_ofStateId, stateIdAfterById_eq, checkLetterIds_of_firstOutside h]
  rfl

theorem answersById_succeedIff (m : FiniteMachine A S) (ids : List Nat) :
    (m.answersById ids).SucceedIff (∀ id ∈ ids, id < m.alphabet.size) := by
  rcases forall_or_exists_firstOutside (· < m.alphabet.size) ids with hall | ⟨id, hid⟩
  · obtain ⟨target, name, final, -, -, -, hanswers⟩ := exists_answersById_eq_success_of_forall hall
    exact .of_success hanswers hall
  · exact .of_failure (answersById_eq_failure hid) fun hall => hid.not (hall id hid.mem)

section

variable [DecidableEq A] [Quoted A] {word : List A}

/-- What the machine answers about a word. -/
def answers (m : FiniteMachine A S) (word : List A) : Answers S where
  stateId := m.stateIdAfter word
  state := m.stateAfter word
  accepted := m.accepts word

theorem answers_eq_ofStateId (m : FiniteMachine A S) (word : List A) :
    m.answers word = .ofStateId m (m.stateIdAfter word) := rfl

theorem answers_eq_answersById (h : word.mapM m.alphabet.idOf = .ok ids) :
    m.answers word = m.answersById ids := by
  rw [answers_eq_ofStateId, answersById_eq_ofStateId,
    stateIdAfter_eq_stateIdAfterById (Registry.mapM_idOf_eq_ok_iff.1 h)]

theorem answers_eq_failure {letter : A} (h : FirstOutside (· ∈ m.alphabet.toList) word letter) :
    m.answers word = .failure (.invalidLetter (quoted letter)) := by
  rw [answers_eq_ofStateId, stateIdAfter_eq, letterIds_eq_error h]
  rfl

theorem answers_succeedIff (m : FiniteMachine A S) (word : List A) :
    (m.answers word).SucceedIff (∀ letter ∈ word, letter ∈ m.alphabet.toList) := by
  rcases forall_or_exists_firstOutside (· ∈ m.alphabet.toList) word with hall | ⟨letter, hletter⟩
  · obtain ⟨ids, hids⟩ := Registry.exists_mapM_idOf_eq_ok hall
    have hlt := Registry.forall_lt_size_of_names (Registry.mapM_idOf_eq_ok_iff.1 hids)
    obtain ⟨target, name, final, -, -, -, hanswers⟩ := exists_answersById_eq_success_of_forall hlt
    exact .of_success ((answers_eq_answersById hids).trans hanswers) hall
  · exact .of_failure (answers_eq_failure hletter) fun hall =>
      hletter.not (hall letter hletter.mem)

end

/-! ## States and letters -/

variable [DecidableEq S] [Quoted S] {state : S}

theorem isFinal_eq {i : Nat} (h : m.states.idOf state = .ok i) :
    m.isFinal state = m.isFinalById i := by
  rw [isFinal, h]
  rfl

theorem isFinal_eq_error (h : state ∉ m.states.toList) :
    m.isFinal state = .error (m.states.role.unknown (quoted state)) := by
  rw [isFinal, Registry.idOf_eq_error h]
  rfl

variable [DecidableEq A] [Quoted A] {letter : A}

theorem transition_eq {i : Fin m.states.size} {j : Fin m.alphabet.size} {name : S}
    (hi : m.states.idOf state = .ok i) (hj : m.alphabet.idOf letter = .ok j)
    (hname : m.states.valueOf? (m.automaton.step i j) = some name) :
    m.transition state letter = .ok name := by
  rw [transition, hi, hj]
  change (m.transitionById i j >>= m.states.valueOf) = _
  rw [transitionById_eq_step]
  exact (m.states.valueOf_eq_ok_iff _ name).2 hname

/-- The state is looked up before the letter. -/
theorem transition_eq_error_of_state (h : state ∉ m.states.toList) (letter : A) :
    m.transition state letter = .error (m.states.role.unknown (quoted state)) := by
  rw [transition, Registry.idOf_eq_error h]
  rfl

theorem transition_eq_error_of_letter {i : Nat} (hi : m.states.idOf state = .ok i)
    (h : letter ∉ m.alphabet.toList) :
    m.transition state letter = .error (m.alphabet.role.unknown (quoted letter)) := by
  rw [transition, hi, Registry.idOf_eq_error h]
  rfl

theorem roles_of_build {letters : Source A} {states : Source S} {initial : Nat}
    {transitions : Table Nat} {finals : Column Bool}
    (h : build letters states initial transitions finals = .ok m) :
    m.alphabet.role = .letter ∧ m.states.role = .state := by
  rw [build_eq, mapError_eq_ok_iff] at h
  obtain ⟨alphabet, stateNames, halphabet, hstates, hparts⟩ :=
    exists_registries_of_assemble letters states initial transitions finals h
  rw [hparts]
  exact ⟨Source.role_of_registry_eq_ok halphabet, Source.role_of_registry_eq_ok hstates⟩

/-- What each query says, and how those with names go back to those with ids. -/
structure QueriesAgree (m : FiniteMachine A S) : Prop where
  answers_succeedIff : ∀ word,
    (m.answers word).SucceedIff (∀ letter ∈ word, letter ∈ m.alphabet.toList)
  answersById_succeedIff : ∀ ids, (m.answersById ids).SucceedIff (∀ id ∈ ids, id < m.alphabet.size)
  /-- A word of known letters has ids, and all queries say of it what they say of these. -/
  answers_eq : ∀ word, (∀ letter ∈ word, letter ∈ m.alphabet.toList) →
    ∃ ids, word.mapM m.alphabet.idOf = .ok ids ∧ m.answers word = m.answersById ids
  /-- The state is found by following the table from the initial state. -/
  answersById_eq : ∀ ids, (∀ id ∈ ids, id < m.alphabet.size) →
    ∃ target name final, ids.foldlM m.transitionById m.initial = .ok target ∧
      m.states.valueOf? target = some name ∧ m.isFinalById target = .ok final ∧
      m.answersById ids = .success target name final
  transition_unknownState : ∀ state ∉ m.states.toList, ∀ letter,
    m.transition state letter = .error (.unknownState (quoted state))
  transition_unknownLetter : ∀ state ∈ m.states.toList, ∀ letter ∉ m.alphabet.toList,
    m.transition state letter = .error (.unknownLetter (quoted letter))
  transition_eq : ∀ state ∈ m.states.toList, ∀ letter ∈ m.alphabet.toList, ∃ i j target name,
    m.states.idOf state = .ok i ∧ m.alphabet.idOf letter = .ok j ∧
      m.transitionById i j = .ok target ∧ m.states.valueOf? target = some name ∧
      m.transition state letter = .ok name
  isFinal_unknownState : ∀ state ∉ m.states.toList,
    m.isFinal state = .error (.unknownState (quoted state))
  isFinal_eq : ∀ state ∈ m.states.toList, ∃ i final, m.states.idOf state = .ok i ∧
    m.isFinalById i = .ok final ∧ m.isFinal state = .ok final

/-- In a machine that was built, the queries with names and those with ids agree. -/
theorem queriesAgree_of_build {letters : Source A} {states : Source S} {initial : Nat}
    {transitions : Table Nat} {finals : Column Bool}
    (h : build letters states initial transitions finals = .ok m) : m.QueriesAgree := by
  obtain ⟨hletters, hstates⟩ := roles_of_build h
  refine ⟨m.answers_succeedIff, m.answersById_succeedIff, ?_,
    fun _ => exists_answersById_eq_success_of_forall, ?_, ?_, ?_, ?_, ?_⟩
  · intro word hword
    obtain ⟨ids, hids⟩ := Registry.exists_mapM_idOf_eq_ok hword
    exact ⟨ids, hids, answers_eq_answersById hids⟩
  · intro state hstate letter
    rw [transition_eq_error_of_state hstate, hstates, Role.unknown]
  · intro state hstate letter hletter
    obtain ⟨i, hi⟩ := Registry.exists_idOf_eq_ok hstate
    rw [transition_eq_error_of_letter hi hletter, hletters, Role.unknown]
  · intro state hstate letter hletter
    obtain ⟨i, hi⟩ := Registry.exists_idOf_eq_ok hstate
    obtain ⟨j, hj⟩ := Registry.exists_idOf_eq_ok hletter
    lift i to Fin m.states.size using Registry.lt_size_of_idOf_eq_ok hi
    lift j to Fin m.alphabet.size using Registry.lt_size_of_idOf_eq_ok hj
    obtain ⟨name, hname⟩ := Registry.exists_valueOf?_eq_some (m.automaton.step i j).isLt
    exact ⟨i, j, _, name, hi, hj, transitionById_eq_step i j, hname, transition_eq hi hj hname⟩
  · intro state hstate
    rw [isFinal_eq_error hstate, hstates, Role.unknown]
  · intro state hstate
    obtain ⟨i, hi⟩ := Registry.exists_idOf_eq_ok hstate
    obtain ⟨final, hfinal⟩ := m.exists_isFinalById_eq_ok (Registry.lt_size_of_idOf_eq_ok hi)
    exact ⟨i, final, hi, hfinal, (isFinal_eq hi).trans hfinal⟩

/-- Reads a binary number with its first digit first; the state is named for the number read. -/
def parity : FiniteMachine Char String where
  alphabet := ⟨#['0', '1'], .letter, false, by decide⟩
  states := ⟨#["even", "odd"], .state, false, by decide⟩
  initial := 0
  transitions := .ofFn 2 2 fun _ letter => letter
  finals := .ofList [true, false]
  fault?_eq_none := by decide +kernel

/-- The number `110` is even, by name and by id. Where neither state nor letter is known, the state
is reported. -/
theorem parity_queriesAgree_of_build :
    build (.listed ['0', '1']) (.listed ["even", "odd"]) 0 (.ofFn 2 2 fun _ letter => letter)
        (.ofList [true, false]) = .ok parity ∧
      parity.QueriesAgree ∧ parity.answersById [1, 1, 0] = .success 0 "even" true ∧
      parity.answers ['1', '1', '0'] = .success 0 "even" true ∧
      parity.transition "none" '2' = .error (.unknownState (quoted "none")) ∧
      parity.transition "odd" '2' = .error (.unknownLetter (quoted '2')) := by
  have hbuild : build (.listed ['0', '1']) (.listed ["even", "odd"]) 0
      (.ofFn 2 2 fun _ letter => letter) (.ofList [true, false]) = .ok parity := by cbv
  have h := queriesAgree_of_build hbuild
  have hletters : parity.alphabet.toList = ['0', '1'] := rfl
  have hstates : parity.states.toList = ["even", "odd"] := rfl
  have hanswers : parity.answersById [1, 1, 0] = .success 0 "even" true := by
    rw [answersById_eq_ofStateId, stateIdAfterById_of_forall (by decide +kernel)]
    cbv
  refine ⟨hbuild, h, hanswers, ?_, ?_, ?_⟩
  · obtain ⟨ids, hids, heq⟩ := h.answers_eq ['1', '1', '0'] (by simp [hletters])
    have hvalue : ['1', '1', '0'].mapM parity.alphabet.idOf = .ok [1, 1, 0] := rfl
    obtain rfl : ids = [1, 1, 0] := Except.ok.inj (hids.symm.trans hvalue)
    exact heq.trans hanswers
  · exact h.transition_unknownState "none" (by simp [hstates]) '2'
  · exact h.transition_unknownLetter "odd" (by simp [hstates]) '2' (by simp [hletters])

end FiniteMachine

end TableMachines
