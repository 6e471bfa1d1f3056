import Mathlib.Data.Nat.Count
import TableMachines.Proofs.InRange

/-!
# Executions run like the textbook machine

`Configuration.Moves` is a step of the textbook machine as the cells of the table prescribe it, and
`IsTextbookRun` the sequence of configurations that such steps lead to. On a word that an execution
starts on there is exactly one such sequence, and after every number of steps the execution shows
the same status, the same number of steps and, seen from its head, the same tape
(`after_eq_textbook`), although its window grows and shrinks at both ends.
-/

namespace TableMachines

namespace TuringMachine

variable {A S : Type} {m : TuringMachine A S} {e : Execution} {word : List Nat}

/-- A step of the textbook machine: what the cells of the table prescribe is carried out, and
nothing changes after the halt. -/
inductive Configuration.Moves (m : TuringMachine A S) : Configuration → Configuration → Prop where
  | rest {c : Configuration} {halt : Halt} : c.status = .halted halt → c.Moves m c
  | act {c : Configuration} {state : Nat} {action : Action} : c.status = .running state →
      m.Prescribes state (c.tape c.head) action → c.Moves m (c.carryOut action)

/-- The configurations of the textbook machine on a word, step after step. -/
structure IsTextbookRun (m : TuringMachine A S) (word : List Nat) (run : Nat → Configuration) :
    Prop where
  start_eq : run 0 = .start m word
  moves : ∀ n, (run n).Moves m (run (n + 1))

theorem Configuration.Moves.unique {c c₁ c₂ : Configuration} (h₁ : c.Moves m c₁)
    (h₂ : c.Moves m c₂) : c₁ = c₂ := by
  cases h₁ with
  | rest hs₁ =>
    cases h₂ with
    | rest => rfl
    | act hs₂ => cases hs₁.symm.trans hs₂
  | act hs₁ ha₁ =>
    cases h₂ with
    | rest hs₂ => cases hs₁.symm.trans hs₂
    | act hs₂ ha₂ =>
      cases hs₁.symm.trans hs₂
      rw [ha₁.unique ha₂]

theorem IsTextbookRun.unique {run run' : Nat → Configuration} (h : m.IsTextbookRun word run)
    (h' : m.IsTextbookRun word run') : run = run' := by
  funext n
  induction n with
  | zero => exact h.start_eq.trans h'.start_eq.symm
  | succ n ih =>
    have hmoves := h.moves n
    rw [ih] at hmoves
    exact hmoves.unique (h'.moves n)

/-- The steps counted by a run are those made while it had not halted. -/
theorem IsTextbookRun.stepCount_eq {run : Nat → Configuration} (h : m.IsTextbookRun word run)
    (n : Nat) : (run n).stepCount = Nat.count (fun k => (run k).status.isHalted = false) n := by
  induction n with
  | zero => rw [h.start_eq, Nat.count_zero, Configuration.start]
  | succ n ih =>
    rw [Nat.count_succ, ← ih]
    generalize run (n + 1) = c, h.moves n = hmoves
    cases hmoves with
    | rest hs => rw [hs]; rfl
    | act hs => rw [hs]; rfl

theorem Execution.Shows.moves_next {c : Configuration} (h : e.Shows m.blank c) (hr : e.InRange m) :
    c.Moves m (c.next m) := by
  have hhead : e.tape.head = c.tape c.head := by simpa using h.look_eq 0
  unfold Configuration.next
  cases hs : c.status with
  | halted halt => exact .rest hs
  | running state =>
    have hlt : state < m.states.size := hr.state_lt state (h.status_eq.trans hs)
    obtain ⟨action, haction, hcells, -⟩ := m.exists_prescribes hlt hr.head_lt
    rw [hhead] at haction hcells
    simp only [haction]
    exact .act hs hcells

/-- The configuration that the textbook machine reaches on a word after `n` steps. -/
def textbookRun (m : TuringMachine A S) (word : List Nat) (n : Nat) : Configuration :=
  (Configuration.next m)^[n] (.start m word)

theorem StartsOn.shows_textbookRun (h : m.StartsOn word e) (n : Nat) :
    (m.stepper.after n e).Shows m.blank (m.textbookRun word n) := by
  induction n with
  | zero =>
    obtain ⟨-, rfl⟩ := startsOn_iff.1 h
    exact shows_startOn m word
  | succ n ih =>
    rw [Stepper.after_succ, textbookRun, Function.iterate_succ_apply']
    exact ih.step

theorem StartsOn.isTextbookRun (h : m.StartsOn word e) :
    m.IsTextbookRun word (m.textbookRun word) where
  start_eq := rfl
  moves n := by
    have hmoves := (h.shows_textbookRun n).moves_next (h.inRange.after n)
    rwa [textbookRun, textbookRun, Function.iterate_succ_apply']

theorem StartsOn.shows (h : m.StartsOn word e) {run : Nat → Configuration}
    (hrun : m.IsTextbookRun word run) (n : Nat) :
    (m.stepper.after n e).Shows m.blank (run n) := by
  rw [hrun.unique h.isTextbookRun]
  exact h.shows_textbookRun n

/-- On every word that an execution starts on, the textbook machine has a run. The execution follows
it: after `n` steps the statuses are equal, the steps counted are those that the textbook machine
made before or at its halt, and each letter at a distance `d` from the head, in the window or blank
outside of it, is the letter at that distance on the infinite tape. -/
theorem after_eq_textbook (h : m.StartsOn word e) :
    (∃ run, m.IsTextbookRun word run) ∧ ∀ run, m.IsTextbookRun word run → ∀ n,
      (m.stepper.after n e).status = (run n).status ∧
      (m.stepper.after n e).stepCount =
        Nat.count (fun k => (run k).status.isHalted = false) n ∧
      ∀ d : Int, wordTape m.blank (m.stepper.after n e).tape.cells
        ((m.stepper.after n e).tape.cursor + d) = (run n).tape ((run n).head + d) := by
  refine ⟨⟨_, h.isTextbookRun⟩, ?_⟩
  intro run hrun n
  have hshows := h.shows hrun n
  refine ⟨hshows.status_eq, ?_, ?_⟩
  · rw [hshows.stepCount_eq, hrun.stepCount_eq]
  · intro d
    rw [← Tape.look_eq_wordTape]
    exact hshows.look_eq d

/-- Erases the last and the first letter of its input in turn, and accepts when none is left. Letter
`0` is the blank and `1` the only input letter. States `0` and `2` go to the right and left end, and
states `1` and `3` erase there. -/
def nibbler : TuringMachine Nat Nat where
  alphabet := .identity 2 .letter
  blank := 0
  inputs := .ofList [false, true]
  states := .identity 4 .state
  initial := 0
  transitions := .ofVectors
    #v[#v[1, 0, -1, 0, 1, 1], #v[-2, 0, 0, 2, 0, -1], #v[3, 0, 1, 2, 1, -1], #v[-2, 0, 0, 0, 0, 1]]
  fault?_eq_none := by decide +kernel

/-- On three letters the textbook nibbler has erased the last of them after `7` steps and stands
left of the two others; it accepts after `14` steps. -/
theorem nibbler_after_eq_textbook :
    nibbler.StartsOn [1, 1, 1] (nibbler.startOn (.ofWord 0 [1, 1, 1])) ∧
      ∃ run, nibbler.IsTextbookRun [1, 1, 1] run ∧ (run 7).status = .running 2 ∧
        (run 7).tape ((run 7).head + 0) = 0 ∧ (run 7).tape ((run 7).head + 2) = 1 ∧
        (run 7).tape ((run 7).head + 3) = 0 ∧ (run 20).status = .halted .accept ∧
        Nat.count (fun k => (run k).status.isHalted = false) 20 = 14 := by
  have hstart : nibbler.StartsOn [1, 1, 1] (nibbler.startOn (.ofWord 0 [1, 1, 1])) := .byId rfl
  obtain ⟨⟨run, hrun⟩, hall⟩ := after_eq_textbook hstart
  obtain ⟨hstatus, -, htape⟩ := hall run hrun 7
  obtain ⟨hend, hcount, -⟩ := hall run hrun 20
  refine ⟨hstart, run, hrun, ?_, ?_, ?_, ?_, ?_, ?_⟩
  · rw [← hstatus]
    decide +kernel
  · rw [← htape]
    decide +kernel
  · rw [← htape]
    decide +kernel
  · rw [← htape]
    decide +kernel
  · rw [← hend]
    decide +kernel
  · rw [← hcount]
    decide +kernel

end TuringMachine

end TableMachines
