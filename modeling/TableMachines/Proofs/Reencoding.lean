import TableMachines.Proofs.BuildTuring
import TableMachines.Proofs.RowOrder
import TableMachines.Proofs.TextbookRun

/-!
# Actions and the cells they come from

An action is read off three cells, and nothing in the cells gets lost: the codes of an action are
the numbers in its cells (`Prescribes.toInt_eq_code`). This rests on the check of the table. A
next-state cell from `-2` on is either a halt code or a state, and a state in a 32-bit cell is far
below the numbers whose codes wrap around (`Status.code_ofCell`).

Every cell of the table belongs to one state, one letter and one of the three kinds
(`CellKind.exists_column_eq`). So the actions of a machine determine its table
(`transitions_eq_of_action_eq`).
-/

namespace TableMachines

/-- From `-2` on, the code of the status that a cell stands for is the number in the cell. -/
theorem Status.code_ofCell {c : Int32} (h : -2 ≤ c.toInt) : (ofCell c.toInt).code = c.toInt := by
  unfold ofCell
  by_cases hreject : c.toInt = -1
  · rw [if_pos hreject, hreject]
    rfl
  · by_cases haccept : c.toInt = -2
    · rw [if_neg hreject, if_pos haccept, haccept]
      rfl
    · have hlt := c.toInt_lt
      rw [if_neg hreject, if_neg haccept, code_running (by omega)]
      omega

theorem Direction.toInt_code (d : Direction) : d.code.toInt = d.offset := by
  cases d <;> rfl

/-- The number that an action has for a cell of each kind. -/
def Action.code (action : Action) : TuringMachine.CellKind → Int
  | .next => action.next.code
  | .write => action.write
  | .direction => action.direction.code.toInt

namespace TuringMachine

variable {A S B T : Type} {m : TuringMachine A S} {state letter : Nat} {action : Action}

theorem CellKind.exists_column_eq (col : Nat) :
    ∃ kind : CellKind, col = 3 * (col / 3) + kind.offset := by
  obtain h | h | h : col % 3 = 0 ∨ col % 3 = 1 ∨ col % 3 = 2 := by omega
  · exact ⟨.next, by simp only [offset]; omega⟩
  · exact ⟨.write, by simp only [offset]; omega⟩
  · exact ⟨.direction, by simp only [offset]; omega⟩

/-! ## Decoding -/

theorem action_eq_ok_iff : m.action state letter = .ok action ↔
    state < m.states.size ∧ letter < m.alphabet.size ∧ m.Prescribes state letter action := by
  unfold TuringMachine.action
  by_cases hs : state < m.states.size
  · by_cases hl : letter < m.alphabet.size
    · obtain ⟨meant, hmeant, hcells, -⟩ := m.exists_prescribes hs hl
      rw [dif_pos hs, dif_pos hl]
      simp only [hmeant, Option.get_some, Except.ok.injEq]
      constructor
      · rintro rfl
        exact ⟨hs, hl, hcells⟩
      · rintro ⟨-, -, h⟩
        exact hcells.unique h
    · rw [dif_pos hs, dif_neg hl]
      constructor
      · intro h
        cases h
      · rintro ⟨-, h, -⟩
        exact absurd h hl
  · rw [dif_neg hs]
    constructor
    · intro h
      cases h
    · rintro ⟨h, -⟩
      exact absurd h hs

theorem exists_action_eq_ok_iff : (∃ action, m.action state letter = .ok action) ↔
    state < m.states.size ∧ letter < m.alphabet.size := by
  constructor
  · rintro ⟨action, h⟩
    obtain ⟨hs, hl, -⟩ := action_eq_ok_iff.1 h
    exact ⟨hs, hl⟩
  · rintro ⟨hs, hl⟩
    obtain ⟨action, -, hcells, -⟩ := m.exists_prescribes hs hl
    exact ⟨action, action_eq_ok_iff.2 ⟨hs, hl, hcells⟩⟩

theorem action_of_states_le (h : m.states.size ≤ state) (letter : Nat) :
    m.action state letter = .error (.outOfRange state m.states.size) := by
  rw [TuringMachine.action, dif_neg (Nat.not_lt.2 h)]

theorem action_of_letters_le (hs : state < m.states.size) (h : m.alphabet.size ≤ letter) :
    m.action state letter = .error (.outOfRange letter m.alphabet.size) := by
  rw [TuringMachine.action, dif_pos hs, dif_neg (Nat.not_lt.2 h)]

theorem Prescribes.inRange (hs : state < m.states.size) (hl : letter < m.alphabet.size)
    (h : m.Prescribes state letter action) : action.InRange m.states.size m.alphabet.size := by
  obtain ⟨meant, -, hcells, hrange⟩ := m.exists_prescribes hs hl
  rw [h.unique hcells]
  exact hrange

/-! ## Encoding again -/

/-- Each cell of a state and a letter holds the code of the action. -/
theorem Prescribes.toInt_eq_code (hs : state < m.states.size) (hl : letter < m.alphabet.size)
    (h : m.Prescribes state letter action) (kind : CellKind) :
    ∃ cell, m.transitions.get? state (3 * letter + kind.offset) = some cell ∧
      cell.toInt = action.code kind := by
  cases kind with
  | next =>
    obtain ⟨cell, hcell, hnext⟩ := h.next
    have hle := (m.wellFormed.next_mem _ hs _ hl _ hcell).1
    refine ⟨cell, hcell, ?_⟩
    rw [Action.code, hnext, Status.code_ofCell hle]
  | write =>
    obtain ⟨cell, hcell, hwrite⟩ := h.write
    exact ⟨cell, hcell, hwrite.symm⟩
  | direction =>
    obtain ⟨cell, hcell, hdirection⟩ := h.direction
    refine ⟨cell, hcell, ?_⟩
    rw [Action.code, Direction.toInt_code, hdirection]

theorem transitionCell_eq_of_action (h : m.action state letter = .ok action) (kind : CellKind) :
    ∃ cell, m.transitionCell state (3 * letter + kind.offset) = .ok cell ∧
      cell.toInt = action.code kind := by
  obtain ⟨hs, hl, hcells⟩ := action_eq_ok_iff.1 h
  obtain ⟨cell, hcell, hcode⟩ := hcells.toInt_eq_code hs hl kind
  exact ⟨cell, (m.transitions.get_eq_ok_iff _ _ _).2 hcell, hcode⟩

/-- Machines of the same size that do the same have the same table. -/
theorem transitions_eq_of_action_eq {m' : TuringMachine B T}
    (hstates : m'.states.size = m.states.size) (hletters : m'.alphabet.size = m.alphabet.size)
    (h : ∀ state < m.states.size, ∀ letter < m.alphabet.size,
      m'.action state letter = m.action state letter) : m'.transitions = m.transitions := by
  have w := m.wellFormed
  have w' := m'.wellFormed
  refine Table.eq_of_get?_eq ?_ ?_ fun row hrow col hcol => ?_
  · rw [w'.rows_eq, w.rows_eq, hstates]
  · rw [w'.cols_eq, w.cols_eq, hletters]
  · have hs : row < m.states.size := by rwa [← hstates, ← w'.rows_eq]
    have hl : col / 3 < m.alphabet.size := by
      rw [w'.cols_eq, hletters] at hcol
      omega
    obtain ⟨kind, hkind⟩ := CellKind.exists_column_eq col
    obtain ⟨action, haction⟩ := exists_action_eq_ok_iff.2 ⟨hs, hl⟩
    obtain ⟨cell, hcell, hcode⟩ := transitionCell_eq_of_action haction kind
    obtain ⟨cell', hcell', hcode'⟩ :=
      transitionCell_eq_of_action ((h row hs (col / 3) hl).trans haction) kind
    rw [← hkind, transitionCell, Table.get_eq_ok_iff] at hcell hcell'
    rw [hcell, hcell', Int32.toInt_inj.1 (hcode'.trans hcode.symm)]

/-- Actions are read off the table exactly where there are a state and a letter, and tell all that
the table says. -/
structure ActionsEncode (m : TuringMachine A S) : Prop where
  exists_action_iff : ∀ state letter, (∃ action, m.action state letter = .ok action) ↔
    state < m.states.size ∧ letter < m.alphabet.size
  action_of_states_le : ∀ state letter, m.states.size ≤ state →
    m.action state letter = .error (.outOfRange state m.states.size)
  action_of_letters_le : ∀ state letter, state < m.states.size → m.alphabet.size ≤ letter →
    m.action state letter = .error (.outOfRange letter m.alphabet.size)
  next_eq : ∀ state letter action, m.action state letter = .ok action →
    ∃ cell, m.transitionCell state (3 * letter) = .ok cell ∧ action.next.code = cell.toInt
  write_eq : ∀ state letter action, m.action state letter = .ok action →
    ∃ cell, m.transitionCell state (3 * letter + 1) = .ok cell ∧ (action.write : Int) = cell.toInt
  direction_eq : ∀ state letter action, m.action state letter = .ok action →
    m.transitionCell state (3 * letter + 2) = .ok action.direction.code
  inRange : ∀ state letter action, m.action state letter = .ok action →
    (∀ q, action.next = .running q → q < m.states.size) ∧ action.write < m.alphabet.size
  transitions_eq : ∀ (B T : Type) (m' : TuringMachine B T), m'.states.size = m.states.size →
    m'.alphabet.size = m.alphabet.size →
    (∀ state < m.states.size, ∀ letter < m.alphabet.size,
      m'.action state letter = m.action state letter) → m'.transitions = m.transitions

theorem actionsEncode (m : TuringMachine A S) : m.ActionsEncode where
  exists_action_iff _ _ := exists_action_eq_ok_iff
  action_of_states_le _ letter h := action_of_states_le h letter
  action_of_letters_le _ _ hs h := action_of_letters_le hs h
  next_eq _ _ _ h := by
    obtain ⟨cell, hcell, hcode⟩ := transitionCell_eq_of_action h .next
    exact ⟨cell, hcell, hcode.symm⟩
  write_eq _ _ _ h := by
    obtain ⟨cell, hcell, hcode⟩ := transitionCell_eq_of_action h .write
    exact ⟨cell, hcell, hcode.symm⟩
  direction_eq _ _ _ h := by
    obtain ⟨cell, hcell, hcode⟩ := transitionCell_eq_of_action h .direction
    rw [← Int32.toInt_inj.1 hcode]
    exact hcell
  inRange _ _ _ h := by
    obtain ⟨hs, hl, hcells⟩ := action_eq_ok_iff.1 h
    obtain ⟨hstate, hwrite⟩ := hcells.inRange hs hl
    exact ⟨hstate, hwrite⟩
  transitions_eq _ _ _ := transitions_eq_of_action_eq

/-- The nibbler accepts by the code `-2`. Where neither state nor letter exists, the state is
reported. -/
theorem nibbler_actionsEncode : nibbler.ActionsEncode ∧
    nibbler.action 1 0 = .ok ⟨.halted .accept, 0, .stay⟩ ∧
    nibbler.transitionCell 1 (3 * 0) = .ok (-2) ∧
    nibbler.action 4 2 = .error (.outOfRange 4 4) ∧
    nibbler.action 3 2 = .error (.outOfRange 2 2) := by
  have h := nibbler.actionsEncode
  have haction : nibbler.action 1 0 = .ok ⟨.halted .accept, 0, .stay⟩ := by cbv
  refine ⟨h, haction, ?_, h.action_of_states_le 4 2 (by decide),
    h.action_of_letters_le 3 2 (by decide) (by decide)⟩
  obtain ⟨cell, hcell, hcode⟩ := h.next_eq 1 0 _ haction
  have htwo : cell = -2 := Int32.toInt_inj.1 hcode.symm
  rw [hcell, htwo]

end TuringMachine

end TableMachines
