import TableMachines.Proofs.TextbookRun

/-!
# Executions keep the least window

The window that an execution keeps never has a blank at an end, except under the head: it starts
that way, as the blank is no input letter, and steps keep it that way (`StartsOn.trimmed`). So it is
the least window of the textbook tape, and the textbook configuration seen from its head determines
it (`after_isLeastWindow`).
-/

namespace TableMachines

namespace TuringMachine

variable {A S : Type} {m : TuringMachine A S} {e : Execution} {word : List Nat}

theorem Execution.InRange.trimmed_step (h : e.InRange m) (ht : e.tape.Trimmed m.blank) :
    (m.step e).2.tape.Trimmed m.blank := by
  rcases h.step_cases with ⟨halt, -, hstep⟩ | ⟨state, action, -, -, -, hstep⟩
  · rw [hstep]
    exact ht
  · rw [hstep]
    exact (ht.write action.write).move action.direction

theorem StartsOn.trimmed (h : m.StartsOn word e) (n : Nat) :
    (m.stepper.after n e).tape.Trimmed m.blank := by
  induction n with
  | zero =>
    obtain ⟨hinput, rfl⟩ := startsOn_iff.1 h
    apply Tape.trimmed_ofWord
    intro hblank
    exact ne_blank_of_isInputById (hinput _ hblank) rfl
  | succ n ih =>
    rw [Stepper.after_succ]
    exact (h.inRange.after n).trimmed_step ih

theorem StartsOn.isLeastWindow (h : m.StartsOn word e) {run : Nat → Configuration}
    (hrun : m.IsTextbookRun word run) (n : Nat) :
    IsLeastWindow m.blank (run n).tape (run n).head (m.stepper.after n e).tape.cells
      (m.stepper.after n e).tape.cursor :=
  (Tape.trimmed_iff_isLeastWindow (h.shows hrun n).look_eq).1 (h.trimmed n)

/-- After every number of steps the window is not empty, its ends hold the head or no blank, and it
is the least window of the textbook tape. Configurations that look the same from their heads, at
whatever place and in whatever runs of the machine, have the same window. -/
theorem after_isLeastWindow (h : m.StartsOn word e) :
    ∃ run, m.IsTextbookRun word run ∧ ∀ n,
      (m.stepper.after n e).tape.cells ≠ [] ∧
      (m.stepper.after n e).tape.Trimmed m.blank ∧
      IsLeastWindow m.blank (run n).tape (run n).head (m.stepper.after n e).tape.cells
        (m.stepper.after n e).tape.cursor ∧
      ∀ word' e' run', m.StartsOn word' e' → m.IsTextbookRun word' run' → ∀ n',
        (∀ d, (run n).tape ((run n).head + d) = (run' n').tape ((run' n').head + d)) →
        (m.stepper.after n e).tape.cells = (m.stepper.after n' e').tape.cells ∧
        (m.stepper.after n e).tape.cursor = (m.stepper.after n' e').tape.cursor := by
  refine ⟨_, h.isTextbookRun, ?_⟩
  intro n
  refine ⟨Tape.cells_ne_nil _, h.trimmed n, h.isLeastWindow h.isTextbookRun n, ?_⟩
  intro word' e' run' h' hrun' n' hsame
  exact (h.isLeastWindow h.isTextbookRun n).unique (h'.isLeastWindow hrun' n') hsame

/-- When the nibbler has erased the last of three letters and stands left of the two others, the
window is its own blank cell and those two; when it has erased all of them, the blank alone. -/
theorem nibbler_after_isLeastWindow :
    nibbler.StartsOn [1, 1, 1] (nibbler.startOn (.ofWord 0 [1, 1, 1])) ∧
      ∃ run, nibbler.IsTextbookRun [1, 1, 1] run ∧
        IsLeastWindow 0 (run 7).tape (run 7).head [0, 1, 1] 0 ∧
        IsLeastWindow 0 (run 13).tape (run 13).head [0] 0 := by
  have hstart : nibbler.StartsOn [1, 1, 1] (nibbler.startOn (.ofWord 0 [1, 1, 1])) := .byId rfl
  obtain ⟨run, hrun, hall⟩ := after_isLeastWindow hstart
  have hwindow : ∀ n cells cursor,
      (nibbler.stepper.after n (nibbler.startOn (.ofWord 0 [1, 1, 1]))).tape.cells = cells →
      (nibbler.stepper.after n (nibbler.startOn (.ofWord 0 [1, 1, 1]))).tape.cursor = cursor →
      IsLeastWindow 0 (run n).tape (run n).head cells cursor := by
    rintro n _ _ rfl rfl
    exact (hall n).2.2.1
  refine ⟨hstart, run, hrun, ?_, ?_⟩
  · apply hwindow <;> decide +kernel
  · apply hwindow <;> decide +kernel

end TuringMachine

end TableMachines
