import TableMachines.TuringMachine.Basic

/-!
# Actions read off the table

`Prescribes` says cell by cell what the table tells a machine to do in a state under a letter,
without the decoders that the runs use. In a machine the cells of every state and letter prescribe
exactly one action (`Prescribes.unique`); it is the one that `action?` decodes, its next state is a
state of the machine and the letter it writes is a tape letter (`exists_prescribes`).
-/

namespace TableMachines

namespace Status

/-- The status that a next-state cell stands for: `-1` rejects, `-2` accepts, any other number is a
state. -/
def ofCell (cell : Int) : Status :=
  if cell = -1 then halted .reject else if cell = -2 then halted .accept else running cell.toNat

/-- From `-2` on, the decoder accepts a next-state cell and reads it as it is meant. -/
theorem ofCode?_of_le {c : Int32} (h : -2 ≤ c.toInt) : ofCode? c = some (ofCell c.toInt) := by
  unfold ofCode? Halt.ofCode? ofCell
  by_cases h1 : c = -1
  · subst h1
    rfl
  · by_cases h2 : c = -2
    · subst h2
      rfl
    · have hne1 : c.toInt ≠ -1 := by
        intro e
        exact h1 (Int32.toInt_inj.1 e)
      have hne2 : c.toInt ≠ -2 := by
        intro e
        exact h2 (Int32.toInt_inj.1 e)
      obtain ⟨n, hn⟩ := Int.eq_ofNat_of_zero_le (show 0 ≤ c.toInt by omega)
      rw [if_neg h1, if_neg h2, if_neg hne1, if_neg hne2, hn]
      rfl

/-- A cell from `-2` on and below the number of states names no state out of range. -/
theorem lt_of_ofCell_eq_running {cell : Int} {states q : Nat} (hle : -2 ≤ cell)
    (hlt : cell < states) (h : ofCell cell = running q) : q < states := by
  unfold ofCell at h
  split at h
  · cases h
  · split at h
    · cases h
    · cases h
      omega

end Status

namespace Direction

theorem offset_of_ofCode? {c : Int32} {d : Direction} (h : ofCode? c = some d) :
    d.offset = c.toInt := by
  rw [← code_of_ofCode? h]
  cases d <;> rfl

theorem eq_of_offset_eq {d d' : Direction} (h : d.offset = d'.offset) : d = d' := by
  cases d <;> cases d' <;> first | rfl | cases h

end Direction

/-- The state that an action leads to and the letter that it writes are below the given numbers. -/
structure Action.InRange (states letters : Nat) (action : Action) : Prop where
  state_lt : ∀ q, action.next = .running q → q < states
  write_lt : action.write < letters

namespace TuringMachine

variable {A S : Type} {m : TuringMachine A S} {state letter : Nat} {action : Action}

/-- The three cells of a state and a letter, the next status, the letter to write and the cells to
move by, say what the action does. -/
structure Prescribes (m : TuringMachine A S) (state letter : Nat) (action : Action) : Prop where
  next : ∃ cell, m.transitions.get? state (3 * letter) = some cell ∧
    action.next = .ofCell cell.toInt
  write : ∃ cell, m.transitions.get? state (3 * letter + 1) = some cell ∧
    (action.write : Int) = cell.toInt
  direction : ∃ cell, m.transitions.get? state (3 * letter + 2) = some cell ∧
    action.direction.offset = cell.toInt

theorem Prescribes.unique {action' : Action} (h : m.Prescribes state letter action)
    (h' : m.Prescribes state letter action') : action = action' := by
  obtain ⟨⟨next, hnext, hn⟩, ⟨write, hwrite, hw⟩, ⟨direction, hdirection, hd⟩⟩ := h
  obtain ⟨⟨next', hnext', hn'⟩, ⟨write', hwrite', hw'⟩, ⟨direction', hdirection', hd'⟩⟩ := h'
  obtain rfl : next = next' := Option.some.inj (hnext.symm.trans hnext')
  obtain rfl : write = write' := Option.some.inj (hwrite.symm.trans hwrite')
  obtain rfl : direction = direction' := Option.some.inj (hdirection.symm.trans hdirection')
  cases action
  cases action'
  simp only [Action.mk.injEq]
  exact ⟨hn.trans hn'.symm, Int.ofNat.inj (hw.trans hw'.symm),
    Direction.eq_of_offset_eq (hd.trans hd'.symm)⟩

theorem exists_cell (m : TuringMachine A S) {p : Nat} (hs : state < m.states.size)
    (hl : letter < m.alphabet.size) (hp : p < 3) :
    ∃ cell, m.transitions.get? state (3 * letter + p) = some cell := by
  have hr : state < m.transitions.rows := m.wellFormed.rows_eq ▸ hs
  have hc := m.wellFormed.cols_eq
  exact ⟨_, m.transitions.get?_of_lt hr (by omega)⟩

/-- The cells of every state and letter prescribe an action within the machine, and the machine
decodes that action. -/
theorem exists_prescribes (m : TuringMachine A S) (hs : state < m.states.size)
    (hl : letter < m.alphabet.size) :
    ∃ action, m.action? state letter = some action ∧ m.Prescribes state letter action ∧
      action.InRange m.states.size m.alphabet.size := by
  have w := m.wellFormed
  obtain ⟨next, hnext⟩ := m.exists_cell hs hl (p := 0) (by decide)
  obtain ⟨write, hwrite⟩ := m.exists_cell hs hl (p := 1) (by decide)
  obtain ⟨direction, hdirection⟩ := m.exists_cell hs hl (p := 2) (by decide)
  obtain ⟨hnle, hnlt⟩ := w.next_mem _ hs _ hl _ hnext
  obtain ⟨hwle, hwlt⟩ := w.write_mem _ hs _ hl _ hwrite
  obtain ⟨d, hd⟩ := Option.isSome_iff_exists.1 (w.direction_mem _ hs _ hl _ hdirection)
  obtain ⟨n, hn⟩ := Int.eq_ofNat_of_zero_le hwle
  refine ⟨⟨.ofCell next.toInt, n, d⟩, ?_, ?_, ?_⟩
  · rw [Nat.add_zero] at hnext
    simp [action?, hnext, hwrite, hdirection, Status.ofCode?_of_le hnle, hn, hd, Int.toNat?]
  · exact ⟨⟨next, hnext, rfl⟩, ⟨write, hwrite, hn.symm⟩,
      ⟨direction, hdirection, Direction.offset_of_ofCode? hd⟩⟩
  · constructor
    · intro q hq
      exact Status.lt_of_ofCell_eq_running hnle hnlt hq
    · show n < m.alphabet.size
      omega

end TuringMachine

end TableMachines
