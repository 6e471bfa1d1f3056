import Mathlib.Computability.DFA
import TableMachines.Proofs.Reading

/-!
# The automaton of a finite machine

The table of a finite machine is the step function of an automaton whose letters and states are the
ids below the two sizes. The validated table never leads outside, so that the steps are total
(`FiniteMachine.automaton`). Following the table through a word of letter ids is evaluating the
automaton (`advance_eq_evalFrom`), and the words of ids that the machine accepts are the language of
the automaton (`acceptsById_iff_mem_accepts`).
-/

namespace TableMachines

namespace FiniteMachine

variable {A S : Type} {m : FiniteMachine A S}

theorem lt_rows_transitions (state : Fin m.states.size) : (state : Nat) < m.transitions.rows :=
  m.wellFormed.rows_eq.symm ▸ state.isLt

theorem lt_cols_transitions (letter : Fin m.alphabet.size) :
    (letter : Nat) < m.transitions.cols :=
  m.wellFormed.cols_eq.symm ▸ letter.isLt

theorem cell_transitions_lt (state : Fin m.states.size) (letter : Fin m.alphabet.size) :
    m.transitions.cell state letter (lt_rows_transitions state) (lt_cols_transitions letter) <
      m.states.size :=
  m.wellFormed.target_lt state letter _ (m.transitions.get?_of_lt _ _)

theorem initial_lt_size (m : FiniteMachine A S) : m.initial < m.states.size :=
  m.wellFormed.initial_lt

/-- The automaton with the cells of the table for its steps. -/
def automaton (m : FiniteMachine A S) : DFA (Fin m.alphabet.size) (Fin m.states.size) where
  step state letter :=
    ⟨m.transitions.cell state letter (lt_rows_transitions state) (lt_cols_transitions letter),
      cell_transitions_lt state letter⟩
  start := ⟨m.initial, m.initial_lt_size⟩
  accept := {state | m.finals.get? state = some true}

variable (state : Fin m.states.size)

/-- The checked look-up of a transition reads the cell that the automaton reads without a check. -/
theorem transitionById_eq_step (letter : Fin m.alphabet.size) :
    m.transitionById state letter = .ok (m.automaton.step state letter : Nat) :=
  m.transitions.get_of_lt (lt_rows_transitions state) (lt_cols_transitions letter)

theorem advance_eq_evalFrom (word : List (Fin m.alphabet.size)) :
    m.advance state (word.map Fin.val) = .ok (m.automaton.evalFrom state word : Nat) := by
  induction word generalizing state with
  | nil => rfl
  | cons letter word ih =>
    rw [List.map_cons, advance_cons, transitionById_eq_step]
    exact ih _

theorem isFinalById_iff_mem_accept :
    m.isFinalById state = .ok true ↔ state ∈ m.automaton.accept :=
  m.finals.get_eq_ok_iff _ _

theorem stateIdAfterById_eq_eval (word : List (Fin m.alphabet.size)) :
    m.stateIdAfterById (word.map Fin.val) = .ok (m.automaton.eval word : Nat) := by
  have hword : ∀ letter ∈ word.map Fin.val, letter < m.alphabet.size :=
    List.forall_mem_map.2 fun letter _ => letter.isLt
  rw [stateIdAfterById_of_forall hword]
  exact advance_eq_evalFrom m.automaton.start word

/-- The words of letter ids that a machine accepts are the language of its automaton. -/
theorem acceptsById_iff_mem_accepts (word : List (Fin m.alphabet.size)) :
    m.acceptsById (word.map Fin.val) = .ok true ↔ word ∈ m.automaton.accepts := by
  rw [acceptsById, stateIdAfterById_eq_eval]
  exact isFinalById_iff_mem_accept _

end FiniteMachine

end TableMachines
