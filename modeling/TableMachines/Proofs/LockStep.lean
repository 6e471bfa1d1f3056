import TableMachines.Proofs.Reading
import TableMachines.Proofs.ScannerTable

/-!
# The scanner goes in step with its finite machine

`Scanning` describes a scanner that has read the first `k` letters of a word: it is in the state
that the finite machine reaches by them, its head is at `k`, and its window is the word, with a
blank after it once the head has left the last letter. Scanners start that way
(`IsScanner.scanning_start`), a step reads one letter more (`Scanning.step`), and the step on the
blank halts (`Scanning.halt`) with the word still on the tape (`Scanned`). `compileById_lockStep` is
the whole run, from the start to the halt.
-/

namespace TableMachines

namespace FiniteMachine

open TuringMachine (Execution)

variable {A S B T : Type} {m : FiniteMachine A S} {scanner : TuringMachine B T} {word : List Nat}
  {k state : Nat} {e : Execution}

/-- The scanner has read the first `k` letters of the word, and is in the given state. -/
structure Scanning (m : FiniteMachine A S) (word : List Nat) (k state : Nat) (e : Execution) :
    Prop where
  read_eq : m.stateIdAfterById (word.take k) = .ok state
  status_eq : e.status = .running state
  stepCount_eq : e.stepCount = k
  cursor_eq : e.tape.cursor = k
  cells_eq : e.tape.cells = word ++ if k = word.length then [m.alphabet.size] else []

/-- The scanner has halted behind the word. Two blanks are behind a word with letters, and one alone
is left of the empty word. -/
structure Scanned (m : FiniteMachine A S) (word : List Nat) (halt : Halt) (e : Execution) :
    Prop where
  status_eq : e.status = .halted halt
  stepCount_eq : e.stepCount = word.length + 1
  cells_eq : e.tape.cells =
    if word = [] then [m.alphabet.size] else word ++ [m.alphabet.size, m.alphabet.size]
  cursor_eq : e.tape.cursor = if word = [] then 0 else word.length + 1

/-! ## The letter under the head -/

theorem Scanning.getElem?_eq (h : m.Scanning word k state e) :
    (word ++ if k = word.length then [m.alphabet.size] else [])[k]? = some e.tape.head := by
  rw [← h.cells_eq, ← e.tape.getElem?_cells_cursor, h.cursor_eq]

theorem Scanning.head_of_lt (h : m.Scanning word k state e) (hk : k < word.length) :
    e.tape.head = word[k] := by
  have hcell := h.getElem?_eq
  rw [List.getElem?_append_left hk, List.getElem?_eq_getElem hk] at hcell
  exact (Option.some.inj hcell).symm

theorem Scanning.head_of_eq (h : m.Scanning word k state e) (hk : k = word.length) :
    e.tape.head = m.alphabet.size := by
  have hcell := h.getElem?_eq
  rw [if_pos hk, List.getElem?_append_right (by omega), hk, Nat.sub_self] at hcell
  exact (Option.some.inj hcell).symm

theorem Scanning.state_lt (h : m.Scanning word k state e)
    (hword : ∀ letter ∈ word, letter < m.alphabet.size) : state < m.states.size := by
  have htake : ∀ letter ∈ word.take k, letter < m.alphabet.size := by
    intro letter hmem
    exact hword letter (List.mem_of_mem_take hmem)
  obtain ⟨target, htarget, hread⟩ := exists_stateIdAfterById_eq_ok htake
  rw [h.read_eq, Except.ok.injEq] at hread
  omega

/-! ## Start and steps -/

namespace IsScanner

theorem startById_eq_ok (hm : m.IsScanner scanner)
    (hword : ∀ letter ∈ word, letter < m.alphabet.size) :
    scanner.startById word = .ok (scanner.startOn (.ofWord m.alphabet.size word)) := by
  rw [TuringMachine.startById_eq_ok_iff, hm.blank_eq]
  refine ⟨?_, rfl⟩
  intro letter hmem
  exact hm.isInputById_iff.2 (hword letter hmem)

theorem scanning_start (hm : m.IsScanner scanner) (word : List Nat) :
    m.Scanning word 0 m.initial (scanner.startOn (.ofWord m.alphabet.size word)) where
  read_eq := by
    rw [List.take_zero, stateIdAfterById_of_forall (by simp)]
    rfl
  status_eq := by rw [TuringMachine.startOn, hm.initial_eq]
  stepCount_eq := rfl
  cursor_eq := rfl
  cells_eq := by
    cases word with
    | nil => rfl
    | cons letter word => simp [TuringMachine.startOn, Tape.cells_ofWord]

/-- A step carries out the action meant and leaves the letter under the head as it is. -/
theorem step_eq (hm : m.IsScanner scanner) (hfits : m.FitsCells) (hs : e.status = .running state)
    (hstate : state < m.states.size) (hhead : e.tape.head ≤ m.alphabet.size) :
    scanner.step e = ((m.scannerAction state e.tape.head).next.outcome,
      { tape := e.tape.moveRight m.alphabet.size
        status := (m.scannerAction state e.tape.head).next
        stepCount := e.stepCount + 1 }) := by
  rw [TuringMachine.step_of_running hs (hm.action?_eq hfits hstate hhead), hm.blank_eq]
  -- writing the letter under the head changes nothing
  rfl

end IsScanner

/-- On the word, a step goes on and reads one letter more. -/
theorem Scanning.step (hm : m.IsScanner scanner) (hfits : m.FitsCells)
    (hword : ∀ letter ∈ word, letter < m.alphabet.size) (hk : k < word.length)
    (h : m.Scanning word k state e) :
    (scanner.step e).1 = .goesOn ∧ ∃ next, m.Scanning word (k + 1) next (scanner.step e).2 := by
  have hletter : word[k] < m.alphabet.size := hword _ (List.getElem_mem hk)
  have hhead := h.head_of_lt hk
  obtain ⟨next, -, hnext⟩ := m.exists_transitionById_eq_ok (h.state_lt hword) hletter
  rw [hm.step_eq hfits h.status_eq (h.state_lt hword) (by omega), hhead,
    scannerAction_of_transition hnext]
  refine ⟨rfl, next, ?_⟩
  have hcells : e.tape.cells = word := by rw [h.cells_eq, if_neg (by omega), List.append_nil]
  constructor
  · rw [stateIdAfterById_take_succ hword hk h.read_eq, hnext]
  · rfl
  · exact congrArg (· + 1) h.stepCount_eq
  · rw [Tape.cursor_moveRight, if_neg (by omega), h.cursor_eq]
  · rw [Tape.cells_moveRight, if_neg (by omega), hcells, h.cursor_eq]

/-- Behind the word, a step halts. -/
theorem Scanning.halt (hm : m.IsScanner scanner) (hfits : m.FitsCells)
    (hword : ∀ letter ∈ word, letter < m.alphabet.size) (h : m.Scanning word word.length state e) :
    (scanner.step e).1 = .halt (m.scannerHalt state) ∧
      m.Scanned word (m.scannerHalt state) (scanner.step e).2 := by
  have hhead := h.head_of_eq rfl
  have hcells : e.tape.cells = word ++ [m.alphabet.size] := by rw [h.cells_eq, if_pos rfl]
  rw [hm.step_eq hfits h.status_eq (h.state_lt hword) (by omega), hhead, scannerAction_blank]
  refine ⟨rfl, ?_⟩
  constructor
  · rfl
  · exact congrArg (· + 1) h.stepCount_eq
  · rw [Tape.cells_moveRight, hcells, h.cursor_eq, List.length_append, List.length_singleton,
      if_pos rfl]
    by_cases hnil : word = []
    · subst hnil
      simp [hhead]
    · rw [if_neg (by simp [hnil]), if_neg hnil, List.append_assoc]
      rfl
  · rw [Tape.cursor_moveRight, h.cursor_eq]
    by_cases hnil : word = []
    · subst hnil
      simp [hhead]
    · rw [if_neg (by simp [hnil]), if_neg hnil]

/-! ## The run -/

namespace IsScanner

theorem exists_scanning (hm : m.IsScanner scanner) (hfits : m.FitsCells)
    (hword : ∀ letter ∈ word, letter < m.alphabet.size) (hk : k ≤ word.length) :
    ∃ state, m.Scanning word k state
      (scanner.stepper.after k (scanner.startOn (.ofWord m.alphabet.size word))) := by
  induction k with
  | zero => exact ⟨m.initial, hm.scanning_start word⟩
  | succ k ih =>
    obtain ⟨state, hscan⟩ := ih (by omega)
    rw [Stepper.after_succ]
    exact (hscan.step hm hfits hword (by omega)).2

theorem goesOn_of_lt (hm : m.IsScanner scanner) (hfits : m.FitsCells)
    (hword : ∀ letter ∈ word, letter < m.alphabet.size) (hk : k < word.length) :
    (scanner.step (scanner.stepper.after k
      (scanner.startOn (.ofWord m.alphabet.size word)))).1 = .goesOn := by
  obtain ⟨state, hscan⟩ := hm.exists_scanning hfits hword (Nat.le_of_lt hk)
  exact (hscan.step hm hfits hword hk).1

/-- The step after the last letter halts as the state that the finite machine has reached says. -/
theorem exists_scanned (hm : m.IsScanner scanner) (hfits : m.FitsCells)
    (hword : ∀ letter ∈ word, letter < m.alphabet.size) :
    ∃ state final, m.stateIdAfterById word = .ok state ∧ m.isFinalById state = .ok final ∧
      (scanner.step (scanner.stepper.after word.length
        (scanner.startOn (.ofWord m.alphabet.size word)))).1 =
          .halt (if final then .accept else .reject) ∧
      m.Scanned word (if final then .accept else .reject)
        (scanner.stepper.after (word.length + 1)
          (scanner.startOn (.ofWord m.alphabet.size word))) := by
  obtain ⟨state, hscan⟩ := hm.exists_scanning hfits hword (Nat.le_refl _)
  obtain ⟨final, hfinal⟩ := m.exists_isFinalById_eq_ok (hscan.state_lt hword)
  have hread := hscan.read_eq
  rw [List.take_length] at hread
  refine ⟨state, final, hread, hfinal, ?_⟩
  rw [Stepper.after_succ, ← scannerHalt_of_isFinal hfinal]
  exact hscan.halt hm hfits hword

end IsScanner

/-- While its ids fit 32-bit cells, a finite machine compiles to a Turing machine, whose blank is
the id after its letters. On every word of letters this scanner starts; after as many steps as there
are letters in a first part of the word it is in the state that the finite machine reaches by that
part, with the word unchanged; and the next step after the last letter halts, accepting exactly in a
final state. -/
theorem compileById_lockStep (hstates : m.states.size ≤ 2147483648)
    (hletters : m.alphabet.size < 2147483648) :
    ∃ scanner, m.compileById = .ok scanner ∧ scanner.blank = m.alphabet.size ∧
      ∀ word, (∀ letter ∈ word, letter < m.alphabet.size) →
        ∃ e, scanner.startById word = .ok e ∧
          (∀ k ≤ word.length, ∃ state, m.Scanning word k state (scanner.stepper.after k e)) ∧
          ∃ state final, m.stateIdAfterById word = .ok state ∧ m.isFinalById state = .ok final ∧
            (scanner.step (scanner.stepper.after word.length e)).1 =
              .halt (if final then .accept else .reject) ∧
            m.Scanned word (if final then .accept else .reject)
              (scanner.stepper.after (word.length + 1) e) := by
  have hfits : m.FitsCells := ⟨hstates, hletters⟩
  obtain ⟨scanner, hcompile, hm⟩ := exists_compileById_eq_ok hfits
  refine ⟨scanner, hcompile, hm.blank_eq, ?_⟩
  intro word hword
  refine ⟨_, hm.startById_eq_ok hword, ?_, ?_⟩
  · intro k hk
    exact hm.exists_scanning hfits hword hk
  · exact hm.exists_scanned hfits hword

/-- Counts the `1`s of a word of `0`s and `1`s modulo three, and accepts the multiples of three. -/
def onesModThree : FiniteMachine Nat Nat where
  alphabet := .identity 2 .letter
  states := .identity 3 .state
  initial := 0
  transitions := .ofFn 3 2 fun state letter => (state + letter) % 3
  finals := .ofList [true, false, false]
  fault?_eq_none := by decide +kernel

/-- On `1 0 1` the scanner is in state `2` after the last letter, and rejects with the word and two
blanks in its window; on the empty word it halts with one blank. -/
theorem onesModThree_compileById_lockStep :
    onesModThree.states.size ≤ 2147483648 ∧ onesModThree.alphabet.size < 2147483648 ∧
      ∃ scanner e e₀, onesModThree.compileById = .ok scanner ∧
        scanner.startById [1, 0, 1] = .ok e ∧ scanner.startById [] = .ok e₀ ∧
        onesModThree.Scanning [1, 0, 1] 3 2 (scanner.stepper.after 3 e) ∧
        onesModThree.Scanned [1, 0, 1] .reject (scanner.stepper.after 4 e) ∧
        (scanner.stepper.after 4 e).tape.cells = [1, 0, 1, 2, 2] ∧
        (scanner.stepper.after 1 e₀).tape.cells = [2] := by
  have hstates : onesModThree.states.size ≤ 2147483648 := by decide +kernel
  have hletters : onesModThree.alphabet.size < 2147483648 := by decide +kernel
  obtain ⟨scanner, hcompile, -, hall⟩ := compileById_lockStep hstates hletters
  obtain ⟨e, he, hscan, state, final, hread, hfinal, -, hscanned⟩ :=
    hall [1, 0, 1] (by decide +kernel)
  obtain ⟨e₀, he₀, -, state₀, final₀, -, -, -, hscanned₀⟩ := hall [] (by decide)
  obtain ⟨state', hscan⟩ := hscan 3 (by decide)
  have htwo : (onesModThree.stateIdAfterById [1, 0, 1]).toOption = some 2 := by decide +kernel
  obtain rfl : state = 2 := by
    rw [hread] at htwo
    exact Option.some.inj htwo
  obtain rfl : state' = 2 := Except.ok.inj (hscan.read_eq.symm.trans hread)
  obtain rfl : final = false := Except.ok.inj (hfinal.symm.trans rfl)
  exact ⟨hstates, hletters, scanner, e, e₀, hcompile, he, he₀, hscan, hscanned, hscanned.cells_eq,
    hscanned₀.cells_eq⟩

end FiniteMachine

end TableMachines
