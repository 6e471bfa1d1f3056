import TableMachines.Proofs.BuildTuring
import TableMachines.Proofs.Resolving
import TableMachines.Proofs.Safety

/-!
# Named machines run like their ids

The names of letters and states take no part in a run. Machines with the same blank, input flags,
initial state and table (`SameTables`) start the same executions on words of letter ids and make the
same steps, whatever their names (`SameTables.startById_eq`, `SameTables.stepper_eq`), and the parts
of a machine always make one whose names are the ids (`exists_byId_eq_ok`).

Names matter where a word is handed in and where an execution is shown. A word is resolved as a
whole before any of its letters is looked at as input (`start_eq_startById`, `start_eq_error`); what
is shown with names is what is shown with ids, named (`Execution.ShowsNames`). `build_relabels` says
all this of the machines that `build` returns.
-/

namespace TableMachines

namespace TuringMachine

variable {A S B T : Type} {m : TuringMachine A S} {m' : TuringMachine B T} {e : Execution}

/-! ## Machines with the same tables -/

/-- The machines differ at most in the names of their letters and states. -/
structure SameTables (m : TuringMachine A S) (m' : TuringMachine B T) : Prop where
  blank_eq : m.blank = m'.blank
  inputs_eq : m.inputs = m'.inputs
  initial_eq : m.initial = m'.initial
  transitions_eq : m.transitions = m'.transitions

namespace SameTables

theorem startById_eq (h : m.SameTables m') (ids : List Nat) :
    m.startById ids = m'.startById ids := by
  unfold startById startOn isInputById
  rw [h.blank_eq, h.inputs_eq, h.initial_eq]

theorem step_eq (h : m.SameTables m') (e : Execution) : m.step e = m'.step e := by
  unfold step action?
  rw [h.blank_eq, h.transitions_eq]

/-- All runs are the same, since the steps are. -/
theorem stepper_eq (h : m.SameTables m') : m.stepper = m'.stepper := by
  unfold stepper
  rw [show m.step = m'.step from funext h.step_eq]

end SameTables

/-! ## The machine of the ids -/

/-- The same parts with other names. -/
def Draft.rename (d : Draft A S) (letters : Registry B) (states : Registry T) : Draft B T where
  alphabet := letters
  blank := d.blank
  inputs := d.inputs
  states := states
  initial := d.initial
  transitions := d.transitions

/-- Whether parts make a machine depends on how many names there are and not on the names. -/
theorem Draft.WellFormed.rename {d : Draft A S} (w : d.WellFormed) {letters : Registry B}
    {states : Registry T} (hletters : letters.size = d.alphabet.size)
    (hstates : states.size = d.states.size) : (d.rename letters states).WellFormed where
  blank_lt := hletters ▸ w.blank_lt
  size_inputs := hletters ▸ w.size_inputs
  inputs_blank := w.inputs_blank
  initial_lt := hstates ▸ w.initial_lt
  rows_eq := hstates ▸ w.rows_eq
  cols_eq := hletters ▸ w.cols_eq
  next_mem := by simpa only [Draft.rename, hletters, hstates] using w.next_mem
  write_mem := by simpa only [Draft.rename, hletters, hstates] using w.write_mem
  direction_mem := by simpa only [Draft.rename, hletters, hstates] using w.direction_mem

/-- The table of a machine provides for as many ids as the machine has letters and states. -/
theorem exists_byId_eq_ok (m : TuringMachine A S) :
    ∃ m₀, byId m.blank (some m.inputs) m.initial m.transitions = .ok m₀ ∧ m.SameTables m₀ := by
  have w := m.wellFormed
  have hletters : (Registry.identity (m.transitions.cols / 3) .letter).size = m.alphabet.size := by
    rw [Registry.size_identity, w.cols_eq, Nat.mul_div_cancel_left _ (by decide)]
  have hstates : (Registry.identity m.transitions.rows .state).size = m.states.size := by
    rw [Registry.size_identity, w.rows_eq]
  have hparts := w.rename hletters hstates
  refine ⟨⟨_, (Draft.fault?_eq_none_iff _).2 hparts⟩, ?_, ⟨rfl, rfl, rfl, rfl⟩⟩
  rw [byId, build_eq, mapError_eq_ok_iff]
  exact ofDraft_of_wellFormed hparts

/-! ## Starting -/

theorem isInputById_iff (m : TuringMachine A S) (id : Nat) :
    m.isInputById id ↔ m.inputs.get? id = some true := by
  unfold isInputById
  cases m.inputs.get? id <;> simp

theorem exists_startById_eq_ok_iff {ids : List Nat} :
    (∃ e, m.startById ids = .ok e) ↔ ∀ id ∈ ids, m.inputs.get? id = some true := by
  simp only [startById_eq_ok_iff, isInputById_iff, exists_and_left, exists_eq, and_true]

/-- A word of ids is refused with the first one that is not flagged as input. -/
theorem startById_eq_error {ids : List Nat} {id : Nat}
    (h : FirstOutside (m.inputs.get? · = some true) ids id) :
    m.startById ids = .error (.notInputLetter id) := by
  have hflag (id : Nat) : (!m.isInputById id) ↔ ¬ m.inputs.get? id = some true := by
    rw [Bool.not_eq_true', ← Bool.not_eq_true, isInputById_iff]
  unfold startById
  rw [(firstOutside_iff_find? hflag).1 h]

theorem get?_inputs_of_le {id : Nat} (h : m.alphabet.size ≤ id) : m.inputs.get? id = none := by
  rw [Column.get?_eq_none_iff, m.wellFormed.size_inputs]
  exact h

section

variable [DecidableEq A] [Quoted A]

theorem start_eq_startById {word : List A} {ids : List Nat}
    (h : ids.map m.alphabet.valueOf? = word.map some) : m.start word = m.startById ids := by
  unfold start
  rw [Registry.mapM_idOf_eq_ok_iff.2 h]
  rfl

/-- An unknown letter is reported whatever the letters before it are flagged as. -/
theorem start_eq_error {word : List A} {letter : A}
    (h : FirstOutside (· ∈ m.alphabet.toList) word letter) :
    m.start word = .error (m.alphabet.role.unknown (quoted letter)) := by
  unfold start
  rw [Registry.mapM_idOf_eq_error h]
  rfl

variable [DecidableEq S] [Quoted S]

theorem role_alphabet_of_build {letters : Source A} {blank : Nat} {inputs? : Option (Column Bool)}
    {states : Source S} {initial : Nat} {transitions : Table Int32}
    (h : build letters blank inputs? states initial transitions = .ok m) :
    m.alphabet.role = .letter := by
  rw [build_eq, mapError_eq_ok_iff] at h
  obtain ⟨alphabet, stateNames, halphabet, -, hparts⟩ :=
    exists_registries_of_assemble letters blank inputs? states initial transitions h
  rw [hparts]
  exact Source.role_of_registry_eq_ok halphabet

end

/-! ## Showing -/

/-- What an execution shows with names is what it shows with ids, each id replaced by its name; it
shows no state exactly when it has halted. -/
structure Execution.ShowsNames (m : TuringMachine A S) (e : Execution) : Prop where
  tapeLetters_eq : (m.tapeLetters e).map some = e.tape.cells.map m.alphabet.valueOf?
  letterUnderHead_eq : ∃ id letter, e.tape.cells[e.tape.cursor]? = some id ∧
    m.alphabet.valueOf? id = some letter ∧ m.letterUnderHead? e = some letter
  state_eq : ∀ state, e.status = .running state →
    ∃ name, m.states.valueOf? state = some name ∧ m.state? e = some name
  state_eq_none_iff : m.state? e = none ↔ ∃ halt, e.status = .halted halt

theorem Execution.InRange.showsNames (h : e.InRange m) : e.ShowsNames m where
  tapeLetters_eq := h.tapeLetters_eq
  letterUnderHead_eq := by
    obtain ⟨letter, hletter⟩ := h.exists_letterUnderHead
    exact ⟨_, letter, e.tape.getElem?_cells_cursor, hletter, hletter⟩
  state_eq _ hs := h.exists_state hs
  state_eq_none_iff := by
    cases hs : e.status with
    | running state =>
      obtain ⟨name, -, hname⟩ := h.exists_state hs
      simp [hname]
    | halted halt => simp [TuringMachine.state?, hs, Status.state?]

/-! ## The machines that are built -/

variable [DecidableEq A] [Quoted A] [DecidableEq S] [Quoted S]

/-- The parts of a machine that was built make a machine by ids. Words of ids start when all of them
are flagged as input, and are refused with the first that is not; the blank and the ids past the
letters are not flagged. Words of names are refused with the first unknown letter, and start like
their ids when there is none. An execution of the one machine is an execution of the other, with the
same moment after every number of steps, and it shows the names of the ids. -/
theorem build_relabels {letters : Source A} {blank : Nat} {inputs? : Option (Column Bool)}
    {states : Source S} {initial : Nat} {transitions : Table Int32}
    (hbuild : build letters blank inputs? states initial transitions = .ok m) :
    ∃ m₀, byId m.blank (some m.inputs) m.initial m.transitions = .ok m₀ ∧
      (∀ ids, (∃ e, m.startById ids = .ok e) ↔ ∀ id ∈ ids, m.inputs.get? id = some true) ∧
      (∀ ids id, FirstOutside (m.inputs.get? · = some true) ids id →
        m.startById ids = .error (.notInputLetter id)) ∧
      m.inputs.get? m.blank = some false ∧ (∀ id ≥ m.alphabet.size, m.inputs.get? id = none) ∧
      (∀ word letter, FirstOutside (· ∈ m.alphabet.toList) word letter →
        m.start word = .error (.unknownLetter (quoted letter))) ∧
      (∀ word, (∀ letter ∈ word, letter ∈ m.alphabet.toList) →
        ∃ ids, ids.map m.alphabet.valueOf? = word.map some ∧ m.start word = m.startById ids) ∧
      ∀ ids, m₀.startById ids = m.startById ids ∧ ∀ e, m.startById ids = .ok e → ∀ n,
        m₀.stepper.after n e = m.stepper.after n e ∧
          (m.stepper.after n e).ShowsNames m := by
  obtain ⟨m₀, hids, hsame⟩ := m.exists_byId_eq_ok
  refine ⟨m₀, hids, fun _ => exists_startById_eq_ok_iff, fun _ _ => startById_eq_error,
    m.wellFormed.inputs_blank, fun _ => get?_inputs_of_le, ?_, ?_, ?_⟩
  · intro word letter hletter
    rw [start_eq_error hletter, role_alphabet_of_build hbuild]
    rfl
  · intro word hword
    obtain ⟨ids, hresolved⟩ := Registry.exists_mapM_idOf_eq_ok hword
    have hnames := Registry.mapM_idOf_eq_ok_iff.1 hresolved
    exact ⟨ids, hnames, start_eq_startById hnames⟩
  · intro ids
    refine ⟨(hsame.startById_eq ids).symm, ?_⟩
    intro e he n
    rw [hsame.stepper_eq]
    refine ⟨rfl, ?_⟩
    rw [← hsame.stepper_eq]
    exact ((StartsOn.byId he).inRange.after n).showsNames

/-- Writes `b`s over its input of `a`s and over the blank behind it, and goes back writing `a`s.
Only `a` is for input. -/
def marker : TuringMachine Char String where
  alphabet := ⟨#['_', 'a', 'b'], .letter, false, by decide⟩
  blank := 0
  inputs := .ofList [false, true, false]
  states := ⟨#["mark", "back"], .state, false, by decide⟩
  initial := 0
  transitions := .ofVectors #v[#v[1, 2, -1, 0, 2, 1, -1, 2, 0], #v[-2, 0, 0, 1, 1, -1, 1, 1, -1]]
  fault?_eq_none := by decide +kernel

/-- The marker is built from its names and table. On `aa` it halts after six steps; in `bcd` the
unknown `c` is reported although `b` is not for input, which is what is wrong with the ids
`1 2 0`. -/
theorem marker_build_relabels :
    build (.listed ['_', 'a', 'b']) 0 (some (.ofList [false, true, false]))
        (.listed ["mark", "back"]) 0 (.ofVectors #v[#v[1, 2, -1, 0, 2, 1, -1, 2, 0],
          #v[-2, 0, 0, 1, 1, -1, 1, 1, -1]]) = .ok marker ∧
      ∃ m₀, byId 0 (some marker.inputs) 0 marker.transitions = .ok m₀ ∧
        marker.start ['b', 'c', 'd'] = .error (.unknownLetter (quoted 'c')) ∧
        marker.startById [1, 2, 0] = .error (.notInputLetter 2) ∧
        ∃ e, marker.start ['a', 'a'] = .ok e ∧
          (m₀.stepper.after 6 e).fullText = "[-2]>0 1 1 2" ∧
          marker.tapeLetters (m₀.stepper.after 6 e) = ['_', 'a', 'a', 'b'] := by
  have hbuild : build (.listed ['_', 'a', 'b']) 0 (some (.ofList [false, true, false]))
      (.listed ["mark", "back"]) 0 (.ofVectors #v[#v[1, 2, -1, 0, 2, 1, -1, 2, 0],
        #v[-2, 0, 0, 1, 1, -1, 1, 1, -1]]) = .ok marker := by cbv
  obtain ⟨m₀, hids, -, hnotInput, -, -, hunknown, -, hrun⟩ := build_relabels hbuild
  have hnames : marker.start ['a', 'a'] = marker.startById [1, 1] := start_eq_startById rfl
  have hstart : marker.startById [1, 1] = .ok (marker.startOn (.ofWord 0 [1, 1])) := rfl
  obtain ⟨hsame, -⟩ := (hrun [1, 1]).2 _ hstart 6
  refine ⟨hbuild, m₀, hids,
    hunknown _ _ ⟨['b'], ['d'], rfl, by simp [marker, Registry.toList],
      by simp [marker, Registry.toList]⟩,
    hnotInput _ _ ⟨[1], [0], rfl, by decide +kernel, by decide +kernel⟩,
    marker.startOn (.ofWord 0 [1, 1]), hnames.trans hstart, ?_, ?_⟩
  · rw [hsame]
    decide +kernel
  · rw [hsame]
    decide +kernel

end TuringMachine

end TableMachines
