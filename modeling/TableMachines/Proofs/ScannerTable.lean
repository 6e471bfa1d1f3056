import TableMachines.Proofs.InRange
import TableMachines.Scanner

/-!
# The table of the scanner

What the Turing machine of a finite machine has in its table. `scannerAction` is the action meant
for a state and a letter: keep the letter, move to the right, and take the transition of the finite
machine or, on the blank, halt. `cellAction` is the action that its cells hold, where ids are 32-bit
words. While these words are in range the scanner's parts are those of a machine
(`scannerDraft_wellFormed`), so that compiling succeeds (`CellsInRange.exists_compileById_eq_ok`),
and the machine does what its cells hold (`IsScanner.action?_eq_cellAction`). While all ids fit the
cells this is the action that is meant (`FitsCells.cellAction_eq`).
-/

namespace TableMachines

theorem Status.ofCell_natCast (state : Nat) : ofCell state = running state := by
  rw [ofCell, if_neg (by omega), if_neg (by omega), Int.toNat_natCast]

theorem Status.ofCell_code (halt : Halt) : ofCell halt.code.toInt = halted halt := by
  cases halt <;> rfl

theorem Halt.code_mem (halt : Halt) : -2 ≤ halt.code.toInt ∧ halt.code.toInt < 0 := by
  cases halt <;> decide

namespace FiniteMachine

variable {A S B T : Type} {m : FiniteMachine A S} {scanner : TuringMachine B T}
  {state letter target : Nat}

/-- The ids of the states and of the letters, the blank included, fit 32-bit cells: they are below
`2 ^ 31`. -/
structure FitsCells (m : FiniteMachine A S) : Prop where
  states_le : m.states.size ≤ 2147483648
  letters_lt : m.alphabet.size < 2147483648

/-! ## The actions of the scanner -/

/-- What the scanner is meant to do in a state under a letter. -/
def scannerAction (m : FiniteMachine A S) (state letter : Nat) : Action where
  next :=
    match m.transitions.get? state letter with
    | some target => .running target
    | none => .halted (m.scannerHalt state)
  write := letter
  direction := .right

theorem scannerAction_of_transition (h : m.transitionById state letter = .ok target) :
    m.scannerAction state letter = ⟨.running target, letter, .right⟩ := by
  rw [scannerAction, (m.transitions.get_eq_ok_iff _ _ _).1 h]

theorem get?_transitions_of_le (h : m.alphabet.size ≤ letter) :
    m.transitions.get? state letter = none := by
  have hcols := m.wellFormed.cols_eq
  exact dif_neg (by omega)

theorem scannerAction_blank (m : FiniteMachine A S) (state : Nat) :
    m.scannerAction state m.alphabet.size =
      ⟨.halted (m.scannerHalt state), m.alphabet.size, .right⟩ := by
  rw [scannerAction, get?_transitions_of_le (Nat.le_refl _)]

theorem scannerHalt_of_isFinal {final : Bool} (h : m.isFinalById state = .ok final) :
    m.scannerHalt state = if final then .accept else .reject := by
  rw [scannerHalt, (m.finals.get_eq_ok_iff _ _).1 h]
  cases final <;> rfl

/-! ## The cells of the table -/

theorem get?_scannerTable {column : Nat} (hs : state < m.states.size)
    (hc : column < 3 * (m.alphabet.size + 1)) :
    m.scannerTable.get? state column = some (m.scannerCell state column) :=
  Table.get?_ofFn _ hs hc

theorem scannerCell_next (m : FiniteMachine A S) (state letter : Nat) :
    m.scannerCell state (3 * letter) =
      match m.transitions.get? state letter with
      | some target => Int32.ofNat target
      | none => (m.scannerHalt state).code := by
  rw [scannerCell, Nat.mul_mod_right, Nat.mul_div_cancel_left letter (by decide)]
  rfl

theorem scannerCell_write (m : FiniteMachine A S) (state letter : Nat) :
    m.scannerCell state (3 * letter + 1) = Int32.ofNat letter := by
  rw [scannerCell, show (3 * letter + 1) % 3 = 1 by omega,
    show (3 * letter + 1) / 3 = letter by omega]
  rfl

theorem scannerCell_direction (m : FiniteMachine A S) (state letter : Nat) :
    m.scannerCell state (3 * letter + 2) = Direction.right.code := by
  rw [scannerCell, show (3 * letter + 2) % 3 = 2 by omega]
  rfl

theorem FitsCells.target_lt (h : m.FitsCells) (ht : m.transitions.get? state letter = some target) :
    target < 2147483648 :=
  Nat.lt_of_lt_of_le (m.wellFormed.target_lt _ _ _ ht) h.states_le

/-- The cells pass for cells of a Turing machine: the letters fit, the blank included, and the words
that stand for the targets are halt codes or states. -/
structure CellsInRange (m : FiniteMachine A S) : Prop where
  letters_lt : m.alphabet.size < 2147483648
  target_mem : ∀ state letter target, m.transitions.get? state letter = some target →
    -2 ≤ (Int32.ofNat target).toInt ∧ (Int32.ofNat target).toInt < m.states.size

theorem FitsCells.cellsInRange (h : m.FitsCells) : m.CellsInRange where
  letters_lt := h.letters_lt
  target_mem state letter target ht := by
    have hlt := m.wellFormed.target_lt _ _ _ ht
    rw [Int32.toInt_ofNat_of_lt (h.target_lt ht)]
    omega

theorem CellsInRange.next_mem (h : m.CellsInRange) (state letter : Nat) :
    -2 ≤ (m.scannerCell state (3 * letter)).toInt ∧
      (m.scannerCell state (3 * letter)).toInt < m.states.size := by
  rw [scannerCell_next]
  cases ht : m.transitions.get? state letter with
  | none =>
    change -2 ≤ (m.scannerHalt state).code.toInt ∧ (m.scannerHalt state).code.toInt < _
    have hcode := (m.scannerHalt state).code_mem
    omega
  | some target => exact h.target_mem state letter target ht

/-- The action that the cells hold for a state and a letter. -/
def cellAction (m : FiniteMachine A S) (state letter : Nat) : Action where
  next := .ofCell (m.scannerCell state (3 * letter)).toInt
  write := letter
  direction := .right

theorem cellAction_of_transition (h : m.transitionById state letter = .ok target) :
    m.cellAction state letter = ⟨.ofCell (Int32.ofNat target).toInt, letter, .right⟩ := by
  rw [cellAction, scannerCell_next, (m.transitions.get_eq_ok_iff _ _ _).1 h]

theorem cellAction_blank (m : FiniteMachine A S) (state : Nat) :
    m.cellAction state m.alphabet.size =
      ⟨.halted (m.scannerHalt state), m.alphabet.size, .right⟩ := by
  rw [cellAction, scannerCell_next, get?_transitions_of_le (Nat.le_refl _)]
  exact congrArg (Action.mk · _ _) (Status.ofCell_code _)

/-- The cells hold the actions that are meant, while the ids fit. -/
theorem FitsCells.cellAction_eq (h : m.FitsCells) (state letter : Nat) :
    m.cellAction state letter = m.scannerAction state letter := by
  rw [cellAction, scannerAction, scannerCell_next]
  cases ht : m.transitions.get? state letter with
  | none => exact congrArg (Action.mk · _ _) (Status.ofCell_code _)
  | some target =>
    change Action.mk (Status.ofCell (Int32.ofNat target).toInt) _ _ = _
    rw [Int32.toInt_ofNat_of_lt (h.target_lt ht), Status.ofCell_natCast]

/-! ## The scanner as a machine -/

/-- The parts of the scanner, with names for its letters and states. -/
def scannerDraft (m : FiniteMachine A S) (letters : Registry B) (states : Registry T) :
    TuringMachine.Draft B T where
  alphabet := letters
  blank := m.alphabet.size
  inputs := TuringMachine.defaultInputs letters.size m.alphabet.size
  states := states
  initial := m.initial
  transitions := m.scannerTable

theorem eq_scannerCell {letters : Registry B} {states : Registry T}
    (hletters : letters.size = m.alphabet.size + 1) (hstates : states.size = m.states.size)
    {p : Nat} {cell : Int32} (hp : p < 3) (hs : state < states.size) (hl : letter < letters.size)
    (h : m.scannerTable.get? state (3 * letter + p) = some cell) :
    cell = m.scannerCell state (3 * letter + p) := by
  rw [get?_scannerTable (by omega) (by omega)] at h
  exact (Option.some.inj h).symm

/-- With one name for each letter and one more, and one for each state, the parts of the scanner are
those of a Turing machine. -/
theorem scannerDraft_wellFormed (h : m.CellsInRange) {letters : Registry B} {states : Registry T}
    (hletters : letters.size = m.alphabet.size + 1) (hstates : states.size = m.states.size) :
    (m.scannerDraft letters states).WellFormed where
  blank_lt := by
    show m.alphabet.size < letters.size
    omega
  size_inputs := Column.size_ofFn _ _
  inputs_blank := by
    show (TuringMachine.defaultInputs letters.size m.alphabet.size).get? m.alphabet.size = _
    rw [TuringMachine.defaultInputs, Column.get?_ofFn _ (by omega)]
    simp
  initial_lt := hstates ▸ m.wellFormed.initial_lt
  rows_eq := hstates.symm
  cols_eq := by
    show 3 * (m.alphabet.size + 1) = 3 * letters.size
    rw [hletters]
  next_mem state hs letter hl cell hcell := by
    obtain rfl := eq_scannerCell hletters hstates (p := 0) (by decide) hs hl hcell
    show _ ∧ _ < (states.size : Int)
    rw [hstates]
    exact h.next_mem state letter
  write_mem state hs letter hl cell hcell := by
    obtain rfl := eq_scannerCell hletters hstates (by decide) hs hl hcell
    have hsize := h.letters_lt
    have hlt : letter < letters.size := hl
    show _ ∧ _ < (letters.size : Int)
    rw [scannerCell_write, Int32.toInt_ofNat_of_lt (by omega)]
    omega
  direction_mem state hs letter hl cell hcell := by
    obtain rfl := eq_scannerCell hletters hstates (by decide) hs hl hcell
    rw [scannerCell_direction, Direction.ofCode?_code]
    rfl

/-- A Turing machine with the parts of the scanner, whatever the names of its letters and states. -/
structure IsScanner (m : FiniteMachine A S) (scanner : TuringMachine B T) : Prop where
  size_alphabet : scanner.alphabet.size = m.alphabet.size + 1
  size_states : scanner.states.size = m.states.size
  blank_eq : scanner.blank = m.alphabet.size
  inputs_eq : scanner.inputs =
    TuringMachine.defaultInputs (m.alphabet.size + 1) m.alphabet.size
  initial_eq : scanner.initial = m.initial
  transitions_eq : scanner.transitions = m.scannerTable

theorem compileById_eq (m : FiniteMachine A S) :
    m.compileById = (TuringMachine.ofDraft (m.scannerDraft
      (.identity (m.alphabet.size + 1) .letter) (.identity m.states.size .state))).mapError
        .construction := by
  have hcols : m.scannerTable.cols / 3 = m.alphabet.size + 1 :=
    Nat.mul_div_cancel_left _ (by decide)
  unfold compileById TuringMachine.byId TuringMachine.build
  simp only [Source.registry, hcols]
  rfl

/-- A finite machine whose cells are in range compiles to its scanner. -/
theorem CellsInRange.exists_compileById_eq_ok (h : m.CellsInRange) :
    ∃ scanner, m.compileById = .ok scanner ∧ m.IsScanner scanner := by
  have hdraft := scannerDraft_wellFormed h
    (Registry.size_identity (m.alphabet.size + 1) .letter)
    (Registry.size_identity m.states.size .state)
  refine ⟨_, by rw [compileById_eq, TuringMachine.ofDraft_of_wellFormed hdraft]; rfl, ?_⟩
  exact ⟨Registry.size_identity _ _, Registry.size_identity _ _, rfl,
    by simp [scannerDraft], rfl, rfl⟩

theorem exists_compileById_eq_ok (h : m.FitsCells) :
    ∃ scanner, m.compileById = .ok scanner ∧ m.IsScanner scanner :=
  h.cellsInRange.exists_compileById_eq_ok

namespace IsScanner

theorem prescribes (hm : m.IsScanner scanner) (hletters : m.alphabet.size < 2147483648)
    (hs : state < m.states.size) (hl : letter ≤ m.alphabet.size) :
    scanner.Prescribes state letter (m.cellAction state letter) := by
  constructor
  · rw [hm.transitions_eq]
    exact ⟨_, get?_scannerTable hs (by omega), rfl⟩
  · rw [hm.transitions_eq]
    refine ⟨_, get?_scannerTable hs (by omega), ?_⟩
    rw [scannerCell_write, Int32.toInt_ofNat_of_lt (by omega)]
    rfl
  · rw [hm.transitions_eq]
    refine ⟨_, get?_scannerTable hs (by omega), ?_⟩
    rw [scannerCell_direction]
    rfl

theorem action?_eq_cellAction (hm : m.IsScanner scanner) (hletters : m.alphabet.size < 2147483648)
    (hs : state < m.states.size) (hl : letter ≤ m.alphabet.size) :
    scanner.action? state letter = some (m.cellAction state letter) := by
  have hrow : state < scanner.states.size := hm.size_states ▸ hs
  have hcol : letter < scanner.alphabet.size := by
    rw [hm.size_alphabet]
    omega
  obtain ⟨action, haction, hcells, -⟩ := scanner.exists_prescribes hrow hcol
  rw [haction, hcells.unique (hm.prescribes hletters hs hl)]

theorem action?_eq (hm : m.IsScanner scanner) (h : m.FitsCells) (hs : state < m.states.size)
    (hl : letter ≤ m.alphabet.size) :
    scanner.action? state letter = some (m.scannerAction state letter) := by
  rw [hm.action?_eq_cellAction h.letters_lt hs hl, h.cellAction_eq]

theorem isInputById_iff (hm : m.IsScanner scanner) :
    scanner.isInputById letter ↔ letter < m.alphabet.size := by
  rw [TuringMachine.isInputById, hm.inputs_eq, TuringMachine.defaultInputs]
  by_cases hlt : letter < m.alphabet.size + 1
  · rw [Column.get?_ofFn _ hlt, Option.getD_some, decide_eq_true_iff]
    omega
  · rw [(Column.get?_eq_none_iff _ _).2 (by rw [Column.size_ofFn]; omega), Option.getD_none]
    simp only [Bool.false_eq_true, false_iff]
    omega

end IsScanner

end FiniteMachine

end TableMachines
