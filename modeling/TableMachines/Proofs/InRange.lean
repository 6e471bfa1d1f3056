import TableMachines.Proofs.Actions
import TableMachines.Proofs.Iteration
import TableMachines.Proofs.Window

/-!
# Executions within their machine

An execution is in range when its state is a state of the machine and its tape holds only tape
letters. Executions start in range (`StartsOn.inRange`), since input letters are tape letters, and
stay in range (`InRange.after`), since the table is validated. In range a step never rests:
`InRange.step_cases` says all that it can do, with the action that the cells of the table prescribe.
-/

namespace TableMachines

namespace TuringMachine

variable {A S : Type} {m : TuringMachine A S} {e : Execution} {word : List Nat}

/-! ## Starting -/

/-- The executions that start on a word of input letters. The blank execution starts on the empty
word. -/
inductive StartsOn (m : TuringMachine A S) : List Nat → Execution → Prop where
  | byId {word : List Nat} {e : Execution} : m.startById word = .ok e → m.StartsOn word e
  | blank : m.StartsOn [] m.startBlank

theorem startById_eq_ok_iff :
    m.startById word = .ok e ↔
      (∀ letter ∈ word, m.isInputById letter) ∧ e = m.startOn (.ofWord m.blank word) := by
  unfold startById
  cases hfind : word.find? (!m.isInputById ·) with
  | none =>
    have hinput : ∀ letter ∈ word, m.isInputById letter := by
      simpa using List.find?_eq_none.1 hfind
    simp only [Except.ok.injEq]
    constructor
    · intro h
      exact ⟨hinput, h.symm⟩
    · rintro ⟨-, h⟩
      exact h.symm
  | some letter =>
    have hnot : ¬ m.isInputById letter := by simpa using List.find?_some hfind
    constructor
    · intro h
      cases h
    · rintro ⟨hinput, -⟩
      exact absurd (hinput letter (List.mem_of_find?_eq_some hfind)) hnot

/-- The word that an execution starts on holds only input letters, and decides where it starts. -/
theorem startsOn_iff :
    m.StartsOn word e ↔
      (∀ letter ∈ word, m.isInputById letter) ∧ e = m.startOn (.ofWord m.blank word) := by
  constructor
  · intro h
    cases h with
    | byId h => exact startById_eq_ok_iff.1 h
    | blank => exact ⟨by simp, rfl⟩
  · intro h
    exact .byId (startById_eq_ok_iff.2 h)

theorem lt_size_of_isInputById {letter : Nat} (h : m.isInputById letter) :
    letter < m.alphabet.size := by
  rw [← m.wellFormed.size_inputs]
  by_contra hle
  rw [isInputById, (m.inputs.get?_eq_none_iff letter).2 (by omega)] at h
  cases h

theorem ne_blank_of_isInputById {letter : Nat} (h : m.isInputById letter) : letter ≠ m.blank := by
  rintro rfl
  rw [m.isInputById_blank] at h
  cases h

/-! ## The invariant -/

/-- The state is a state of the machine, and the tape holds only tape letters. -/
structure Execution.InRange (m : TuringMachine A S) (e : Execution) : Prop where
  state_lt : ∀ state, e.status = .running state → state < m.states.size
  letter_lt : ∀ letter ∈ e.tape.cells, letter < m.alphabet.size

namespace Execution.InRange

theorem head_lt (h : e.InRange m) : e.tape.head < m.alphabet.size :=
  h.letter_lt _ (Tape.mem_cells_iff.2 (Or.inr (Or.inl rfl)))

/-- In range, a step reports the halt again, or carries out the action that the table prescribes. -/
theorem step_cases (h : e.InRange m) :
    (∃ halt, e.status = .halted halt ∧ m.step e = (.halt halt, e)) ∨
      ∃ state action, e.status = .running state ∧ m.Prescribes state e.tape.head action ∧
        action.InRange m.states.size m.alphabet.size ∧
        m.step e = (action.next.outcome, e.carryOut m.blank action) := by
  cases hs : e.status with
  | halted halt => exact Or.inl ⟨halt, rfl, step_of_halted hs⟩
  | running state =>
    obtain ⟨action, haction, hcells, hrange⟩ := m.exists_prescribes (h.state_lt state hs) h.head_lt
    exact Or.inr ⟨state, action, rfl, hcells, hrange, step_of_running hs haction⟩

theorem carryOut (h : e.InRange m) {action : Action}
    (hrange : action.InRange m.states.size m.alphabet.size) :
    (e.carryOut m.blank action).InRange m where
  state_lt := hrange.state_lt
  letter_lt letter hmem := by
    rcases Tape.mem_cells_of_mem_cells_move hmem with hmem | rfl
    · rcases Tape.mem_cells_write hmem with hmem | rfl
      · exact h.letter_lt letter hmem
      · exact hrange.write_lt
    · exact m.wellFormed.blank_lt

theorem step (h : e.InRange m) : (m.step e).2.InRange m := by
  rcases h.step_cases with ⟨halt, -, hstep⟩ | ⟨state, action, -, -, hrange, hstep⟩
  · rw [hstep]
    exact h
  · rw [hstep]
    exact h.carryOut hrange

theorem after (h : e.InRange m) (n : Nat) : (m.stepper.after n e).InRange m := by
  refine Stepper.after_induction (M := m.stepper) ?_ h n
  intro e he
  exact he.step

end Execution.InRange

theorem StartsOn.inRange (h : m.StartsOn word e) : e.InRange m := by
  obtain ⟨hinput, rfl⟩ := startsOn_iff.1 h
  constructor
  · intro state hstate
    cases hstate
    exact m.wellFormed.initial_lt
  · intro letter hmem
    cases word with
    | nil =>
      obtain rfl := List.mem_singleton.1 hmem
      exact m.wellFormed.blank_lt
    | cons first word => exact lt_size_of_isInputById (hinput letter hmem)

end TuringMachine

end TableMachines
