import TableMachines.Proofs.BuildTuring
import TableMachines.Proofs.Reading
import TableMachines.Proofs.ScannerTable

/-!
# Scanners with more ids than cells can tell apart

A cell stores an id as the 32-bit word it is congruent to, and nothing is checked before the table
is read as that of a Turing machine. Compiling by ids succeeds exactly while the words are in range
(`exists_compileById_eq_ok_iff`). A letter that does not fit is always refused. The targets that do
not fit become negative words, from `-2147483648` up, and these are refused as well until they come
to the halt codes: with at most `4294967294` states, a scanner that is built does what is meant
(`compileById_keepsActions_iff`). One state more, and its id has the word for accepting
(`lastStateMachine_compileById`).
-/

namespace TableMachines

/-- The words of the ids from `2147483648` on are below the halt codes, up to the id that is
congruent to the smaller one. -/
theorem lt_of_le_toInt_ofNat {n : Nat} (hn : n < 4294967294) (h : -2 ≤ (Int32.ofNat n).toInt) :
    n < 2147483648 := by
  rw [Int32.toInt_ofNat', Int.bmod_def] at h
  change -2 ≤ if (n : Int) % 4294967296 < 2147483648 then (n : Int) % 4294967296 else
    (n : Int) % 4294967296 - 4294967296 at h
  split at h <;> omega

/-- An id is read back from its cell exactly when it fits. -/
theorem Status.ofCell_toInt_ofNat_eq_running_iff (n : Nat) :
    ofCell (Int32.ofNat n).toInt = running n ↔ n < 2147483648 := by
  constructor
  · intro h
    have hlt := (Int32.ofNat n).toInt_lt
    unfold ofCell at h
    split at h
    · cases h
    · split at h
      · cases h
      · have hn := running.inj h
        omega
  · intro h
    rw [Int32.toInt_ofNat_of_lt h, ofCell_natCast]

namespace FiniteMachine

variable {A S B T : Type} {m : FiniteMachine A S}

theorem lt_of_get?_transitions {state letter target : Nat}
    (h : m.transitions.get? state letter = some target) :
    state < m.states.size ∧ letter < m.alphabet.size := by
  rw [← m.wellFormed.rows_eq, ← m.wellFormed.cols_eq]
  exact (m.transitions.isSome_get?_iff state letter).1 (by rw [h]; rfl)

/-! ## The scanners that are built -/

/-- Parts of a scanner that are those of a Turing machine have their cells in range. -/
theorem cellsInRange_of_wellFormed {letters : Registry B} {states : Registry T}
    (hletters : letters.size = m.alphabet.size + 1) (hstates : states.size = m.states.size)
    (h : (m.scannerDraft letters states).WellFormed) : m.CellsInRange where
  letters_lt := by
    -- the first letter that does not fit is refused as a letter to write
    by_contra hwide
    have hletter : 2147483648 < letters.size := by omega
    have hcell : m.scannerTable.get? m.initial (3 * 2147483648 + 1) = some _ :=
      get?_scannerTable m.wellFormed.initial_lt (by omega)
    rw [scannerCell_write] at hcell
    have hword : (Int32.ofNat 2147483648).toInt = -2147483648 := by decide
    obtain ⟨hle, -⟩ := h.write_mem m.initial h.initial_lt 2147483648 hletter _ hcell
    omega
  target_mem state letter target ht := by
    obtain ⟨hs, hl⟩ := lt_of_get?_transitions ht
    have hcell : m.scannerTable.get? state (3 * letter) = some _ := get?_scannerTable hs (by omega)
    rw [scannerCell_next, ht] at hcell
    have hletter : letter < letters.size := by omega
    have hmem := h.next_mem state (hstates.symm ▸ hs) letter hletter _ hcell
    rwa [← hstates]

theorem cellsInRange_of_compileById_eq_ok {scanner : TuringMachine Nat Nat}
    (h : m.compileById = .ok scanner) : m.CellsInRange := by
  rw [compileById_eq, mapError_eq_ok_iff] at h
  have hwell := scanner.wellFormed
  rw [TuringMachine.toDraft_of_ofDraft_eq_ok h] at hwell
  exact cellsInRange_of_wellFormed (Registry.size_identity _ _) (Registry.size_identity _ _) hwell

theorem isScanner_of_compileById_eq_ok {scanner : TuringMachine Nat Nat}
    (h : m.compileById = .ok scanner) : m.IsScanner scanner := by
  obtain ⟨scanner', h', hm⟩ := (cellsInRange_of_compileById_eq_ok h).exists_compileById_eq_ok
  rwa [Except.ok.inj (h.symm.trans h')]

theorem exists_compileById_eq_ok_iff :
    (∃ scanner, m.compileById = .ok scanner) ↔ m.CellsInRange := by
  constructor
  · rintro ⟨scanner, h⟩
    exact cellsInRange_of_compileById_eq_ok h
  · intro h
    obtain ⟨scanner, hscanner, -⟩ := h.exists_compileById_eq_ok
    exact ⟨scanner, hscanner⟩

/-! ## What they do -/

/-- The scanner does what is meant: in every state it keeps the letter under its head, moves to the
right and takes the transition of the finite machine, or halts on the blank with its answer. -/
structure KeepsActions (m : FiniteMachine A S) (scanner : TuringMachine B T) : Prop where
  letter : ∀ state < m.states.size, ∀ letter < m.alphabet.size, ∃ target,
    m.transitionById state letter = .ok target ∧
      scanner.action state letter = .ok ⟨.running target, letter, .right⟩
  blank : ∀ state < m.states.size, ∃ final, m.isFinalById state = .ok final ∧
    scanner.action state m.alphabet.size =
      .ok ⟨.halted (if final then .accept else .reject), m.alphabet.size, .right⟩

namespace IsScanner

variable {scanner : TuringMachine B T} {state letter : Nat}

theorem action_eq (hm : m.IsScanner scanner) (hcells : m.CellsInRange) (hs : state < m.states.size)
    (hl : letter ≤ m.alphabet.size) :
    scanner.action state letter = .ok (m.cellAction state letter) := by
  have hrow : state < scanner.states.size := hm.size_states ▸ hs
  have hcol : letter < scanner.alphabet.size := by
    rw [hm.size_alphabet]
    omega
  have haction := hm.action?_eq_cellAction hcells.letters_lt hs hl
  rw [TuringMachine.action, dif_pos hrow, dif_pos hcol]
  simp only [haction, Option.get_some]

/-- Under a letter the next status is what the word for the target stands for. -/
theorem exists_action_eq (hm : m.IsScanner scanner) (hcells : m.CellsInRange)
    (hs : state < m.states.size) (hl : letter < m.alphabet.size) :
    ∃ target, m.transitionById state letter = .ok target ∧
      scanner.action state letter = .ok ⟨.ofCell (Int32.ofNat target).toInt, letter, .right⟩ := by
  obtain ⟨target, -, htarget⟩ := m.exists_transitionById_eq_ok hs hl
  refine ⟨target, htarget, ?_⟩
  rw [hm.action_eq hcells hs (Nat.le_of_lt hl), cellAction_of_transition htarget]

theorem exists_action_blank_eq (hm : m.IsScanner scanner) (hcells : m.CellsInRange)
    (hs : state < m.states.size) :
    ∃ final, m.isFinalById state = .ok final ∧ scanner.action state m.alphabet.size =
      .ok ⟨.halted (if final then .accept else .reject), m.alphabet.size, .right⟩ := by
  obtain ⟨final, hfinal⟩ := exists_isFinalById_eq_ok hs
  refine ⟨final, hfinal, ?_⟩
  rw [hm.action_eq hcells hs (Nat.le_refl _), cellAction_blank, scannerHalt_of_isFinal hfinal]

theorem keepsActions_iff (hm : m.IsScanner scanner) (hcells : m.CellsInRange) :
    m.KeepsActions scanner ↔ ∀ state letter target,
      m.transitionById state letter = .ok target → target < 2147483648 := by
  constructor
  · intro hkeeps state letter target htarget
    obtain ⟨hs, hl⟩ := lt_of_get?_transitions ((m.transitions.get_eq_ok_iff _ _ _).1 htarget)
    obtain ⟨meant, hmeant, haction⟩ := hkeeps.letter state hs letter hl
    obtain rfl : target = meant := Except.ok.inj (htarget.symm.trans hmeant)
    rw [hm.action_eq hcells hs (Nat.le_of_lt hl), cellAction_of_transition htarget] at haction
    exact (Status.ofCell_toInt_ofNat_eq_running_iff target).1
      (congrArg Action.next (Except.ok.inj haction))
  · intro hfit
    refine ⟨?_, fun state hs => hm.exists_action_blank_eq hcells hs⟩
    intro state hs letter hl
    obtain ⟨target, htarget, haction⟩ := hm.exists_action_eq hcells hs hl
    rw [(Status.ofCell_toInt_ofNat_eq_running_iff target).2 (hfit state letter target htarget)]
      at haction
    exact ⟨target, htarget, haction⟩

end IsScanner

/-- With at most `4294967294` states, no target that is too large passes for a halt code. -/
theorem CellsInRange.target_lt (h : m.CellsInRange) (hstates : m.states.size ≤ 4294967294)
    {state letter target : Nat} (htarget : m.transitionById state letter = .ok target) :
    target < 2147483648 := by
  have hcell := (m.transitions.get_eq_ok_iff _ _ _).1 htarget
  have hlt := m.wellFormed.target_lt _ _ _ hcell
  exact lt_of_le_toInt_ofNat (by omega) (h.target_mem _ _ _ hcell).1

/-- Compiling by ids succeeds exactly while the words for the blank and the targets are in range. A
scanner that is built goes where the word for a target leads, so that it does what is meant exactly
when all targets fit the cells. They do while there are at most `4294967294` states. -/
theorem compileById_keepsActions_iff (m : FiniteMachine A S) :
    ((∃ scanner, m.compileById = .ok scanner) ↔ m.CellsInRange) ∧
      ∀ scanner, m.compileById = .ok scanner →
        (∀ state < m.states.size, ∀ letter < m.alphabet.size, ∃ target,
          m.transitionById state letter = .ok target ∧ scanner.action state letter =
            .ok ⟨.ofCell (Int32.ofNat target).toInt, letter, .right⟩) ∧
        (m.KeepsActions scanner ↔ ∀ state letter target,
          m.transitionById state letter = .ok target → target < 2147483648) ∧
        (m.states.size ≤ 4294967294 → m.KeepsActions scanner) := by
  refine ⟨exists_compileById_eq_ok_iff, fun scanner hscanner => ?_⟩
  have hm := isScanner_of_compileById_eq_ok hscanner
  have hcells := cellsInRange_of_compileById_eq_ok hscanner
  refine ⟨fun state hs letter hl => hm.exists_action_eq hcells hs hl,
    hm.keepsActions_iff hcells, ?_⟩
  intro hstates
  exact (hm.keepsActions_iff hcells).2 fun _ _ _ => hcells.target_lt hstates

/-! ## A scanner that does something else -/

/-- The parts of a machine with one letter that leads from everywhere to the last state. No state is
final. -/
def lastStateDraft (last : Nat) : Draft Nat Nat where
  alphabet := .identity 1 .letter
  states := .identity (last + 1) .state
  initial := 0
  transitions := .ofFn (last + 1) 1 fun _ _ => last
  finals := .ofFn (last + 1) fun _ => false

theorem get?_transitions_lastStateDraft {last state letter target : Nat}
    (h : (lastStateDraft last).transitions.get? state letter = some target) : target = last := by
  obtain ⟨hrow, hcol⟩ :=
    ((lastStateDraft last).transitions.isSome_get?_iff state letter).1 (by rw [h]; rfl)
  exact Option.some.inj (h.symm.trans (Table.get?_ofFn _ hrow hcol))

theorem wellFormed_lastStateDraft (last : Nat) : (lastStateDraft last).WellFormed where
  initial_lt := by simp [lastStateDraft]
  rows_eq := (Registry.size_identity _ _).symm
  cols_eq := (Registry.size_identity _ _).symm
  size_finals := by simp [lastStateDraft]
  target_lt state letter target h := by
    rw [get?_transitions_lastStateDraft h]
    simp [lastStateDraft]

/-- The draft as a machine. -/
def lastStateMachine (last : Nat) : FiniteMachine Nat Nat where
  toDraft := lastStateDraft last
  fault?_eq_none := (Draft.fault?_eq_none_iff _).2 (wellFormed_lastStateDraft last)

theorem transitionById_lastStateMachine (last : Nat) :
    (lastStateMachine last).transitionById 0 0 = .ok last :=
  (Table.get_eq_ok_iff _ _ _ _).2 (Table.get?_ofFn _ (Nat.succ_pos last) Nat.one_pos)

theorem isFinalById_lastStateMachine (last : Nat) :
    (lastStateMachine last).isFinalById last = .ok false :=
  (Column.get_eq_ok_iff _ _ _).2 (Column.get?_ofFn _ (Nat.lt_succ_self last))

/-- The last state of `4294967295` has the word for accepting: the scanner accepts under a letter,
although no state is final and the machine goes on. -/
theorem lastStateMachine_compileById :
    ∃ scanner, (lastStateMachine 4294967294).compileById = .ok scanner ∧
      (lastStateMachine 4294967294).transitionById 0 0 = .ok 4294967294 ∧
      (lastStateMachine 4294967294).isFinalById 4294967294 = .ok false ∧
      scanner.action 0 0 = .ok ⟨.halted .accept, 0, .right⟩ ∧
      ¬ (lastStateMachine 4294967294).KeepsActions scanner := by
  have hword : (Int32.ofNat 4294967294).toInt = -2 := by decide
  have hstates : (lastStateMachine 4294967294).states.size = 4294967295 :=
    Registry.size_identity _ _
  have hletters : (lastStateMachine 4294967294).alphabet.size = 1 := Registry.size_identity _ _
  have hcells : (lastStateMachine 4294967294).CellsInRange := by
    refine ⟨by omega, fun state letter target h => ?_⟩
    rw [get?_transitions_lastStateDraft h, hword]
    omega
  have htransition := transitionById_lastStateMachine 4294967294
  obtain ⟨scanner, hscanner, hm⟩ := hcells.exists_compileById_eq_ok
  refine ⟨scanner, hscanner, htransition, isFinalById_lastStateMachine _, ?_, ?_⟩
  · rw [hm.action_eq hcells (by omega) (by omega), cellAction_of_transition htransition, hword]
    rfl
  · intro hkeeps
    have hfit := (hm.keepsActions_iff hcells).1 hkeeps 0 0 _ htransition
    omega

end FiniteMachine

end TableMachines
