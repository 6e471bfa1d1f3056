import TableMachines.Proofs.FullText
import TableMachines.Proofs.Reachable

/-!
# The full text as a fingerprint

The full text of a reachable execution says everything about it but the number of its steps. Its
window is trimmed, so that the tape seen from the head determines it (`Trimmed.eq_of_look_eq`), and
its state is a state of the machine, so that the code of the status determines the status. What an
execution does later depends on its tape and its status alone (`view_after`); one that comes back to
a tape and a status of before without a halt goes on for ever (`not_isHalted_of_view_eq`).
`fullText_fingerprint` puts this together.
-/

namespace TableMachines

open TuringMachine (wordTape)

/-- Trimmed windows that look the same from their heads are the same. -/
theorem Tape.Trimmed.eq_of_look_eq {blank : Nat} {t u : Tape} (ht : t.Trimmed blank)
    (hu : u.Trimmed blank) (h : ∀ d, t.look blank d = u.look blank d) : t = u := by
  have hseen : ∀ (t : Tape) (d : Int), t.look blank d = t.look blank (0 + d) := by
    intro t d
    rw [Int.zero_add]
  obtain ⟨hcells, hcursor⟩ := ((trimmed_iff_isLeastWindow (hseen t)).1 ht).unique
    ((trimmed_iff_isLeastWindow (hseen u)).1 hu) fun d => h (0 + d)
  exact Tape.eq_of_cells_eq hcells hcursor

namespace TuringMachine

variable {A S : Type} {m : TuringMachine A S} {e e' : Execution}

/-- What an execution shows of itself apart from the number of its steps. -/
def Execution.view (e : Execution) : Status × Tape := (e.status, e.tape)

theorem view_eq_iff : e.view = e'.view ↔ e.status = e'.status ∧ e.tape = e'.tape :=
  Prod.ext_iff

theorem view_eq_iff_cells :
    e.view = e'.view ↔
      e.status = e'.status ∧ e.tape.cells = e'.tape.cells ∧ e.tape.cursor = e'.tape.cursor := by
  rw [view_eq_iff]
  constructor
  · rintro ⟨hstatus, htape⟩
    exact ⟨hstatus, by rw [htape], by rw [htape]⟩
  · rintro ⟨hstatus, hcells, hcursor⟩
    exact ⟨hstatus, Tape.eq_of_cells_eq hcells hcursor⟩

/-! ## Runs from the same view -/

theorem step_of_view_eq (m : TuringMachine A S) (h : e.view = e'.view) :
    (m.step e).1 = (m.step e').1 ∧ (m.step e).2.view = (m.step e').2.view := by
  obtain ⟨hstatus, htape⟩ := view_eq_iff.1 h
  cases hs : e'.status with
  | halted halt =>
    rw [step_of_halted (hstatus.trans hs), step_of_halted hs]
    exact ⟨rfl, h⟩
  | running state =>
    cases ha : m.action? state e'.tape.head with
    | none =>
      rw [step_of_action?_eq_none (hstatus.trans hs) (htape ▸ ha), step_of_action?_eq_none hs ha]
      exact ⟨rfl, h⟩
    | some action =>
      rw [step_of_running (hstatus.trans hs) (htape ▸ ha), step_of_running hs ha]
      simp only [Execution.view, Execution.carryOut, htape, and_self]

theorem view_after (m : TuringMachine A S) (h : e.view = e'.view) (n : Nat) :
    (m.stepper.after n e).view = (m.stepper.after n e').view := by
  induction n with
  | zero => exact h
  | succ n ih =>
    rw [Stepper.after_succ, Stepper.after_succ]
    exact (m.step_of_view_eq ih).2

/-- A view that comes back after `k` steps comes back again and again. -/
theorem view_after_mul {k : Nat} (h : (m.stepper.after k e).view = e.view) (q : Nat) :
    (m.stepper.after (q * k) e).view = e.view := by
  induction q with
  | zero => rw [Nat.zero_mul, Stepper.after_zero]
  | succ q ih =>
    rw [Nat.succ_mul, Stepper.after_add, m.view_after ih, h]

theorem after_of_isHalted {i j : Nat} (h : (m.stepper.after i e).status.isHalted) (hij : i ≤ j) :
    m.stepper.after j e = m.stepper.after i e := by
  cases hs : (m.stepper.after i e).status with
  | running state =>
    rw [hs] at h
    cases h
  | halted halt =>
    exact m.coherent_stepper.after_of_halt_of_le (Status.outcome_eq_halt_iff.2 hs) hij

/-- An execution that shows the same view after different numbers of steps, and has not halted then,
never halts: a halt at any time would still be there when the view has come back often enough. -/
theorem not_isHalted_of_view_eq {i j : Nat} (hij : i < j)
    (hview : (m.stepper.after i e).view = (m.stepper.after j e).view)
    (hrun : (m.stepper.after i e).status.isHalted = false) (n : Nat) :
    (m.stepper.after n e).status.isHalted = false := by
  obtain ⟨k, rfl⟩ := Nat.exists_eq_add_of_lt hij
  rw [Nat.add_assoc, Stepper.after_add] at hview
  have hback := view_after_mul hview.symm n
  rw [← Stepper.after_add] at hback
  by_contra hhalt
  rw [Bool.not_eq_false] at hhalt
  have hle : n ≤ i + n * (k + 1) := by
    rw [Nat.mul_succ]
    omega
  rw [after_of_isHalted hhalt hle] at hback
  rw [(view_eq_iff.1 hback).1, hrun] at hhalt
  cases hhalt

/-! ## The fingerprint -/

variable [DecidableEq A] [Quoted A]

theorem Reachable.fullText_eq_iff_view_eq (hstates : m.states.size ≤ 9223372036854775808)
    (h : m.Reachable e) (h' : m.Reachable e') : e.fullText = e'.fullText ↔ e.view = e'.view := by
  rw [Execution.fullText_eq_iff_code, view_eq_iff]
  constructor
  · rintro ⟨hcode, htape⟩
    exact ⟨Status.code_inj hstates h.inRange.state_lt h'.inRange.state_lt hcode, htape⟩
  · rintro ⟨hstatus, htape⟩
    exact ⟨by rw [hstatus], htape⟩

theorem Reachable.view_eq_iff_wordTape (h : m.Reachable e) (h' : m.Reachable e') :
    e.view = e'.view ↔ e.status = e'.status ∧
      ∀ d : Int, wordTape m.blank e.tape.cells (e.tape.cursor + d) =
        wordTape m.blank e'.tape.cells (e'.tape.cursor + d) := by
  rw [view_eq_iff]
  constructor
  · rintro ⟨hstatus, htape⟩
    exact ⟨hstatus, fun d => by rw [htape]⟩
  · rintro ⟨hstatus, hlook⟩
    refine ⟨hstatus, h.trimmed.eq_of_look_eq h'.trimmed fun d => ?_⟩
    rw [Tape.look_eq_wordTape, Tape.look_eq_wordTape, hlook]

/-- In a machine with at most `2 ^ 63` states, reachable executions have the same full text exactly
when they have the same status, the same window and the same place of the head in it, and exactly
when they have the same status and the same infinite tape seen from the head. From then on their
full texts stay the same and their steps report the same. An execution with the same full text after
different numbers of steps, not halted then, never halts. -/
theorem fullText_fingerprint (hstates : m.states.size ≤ 9223372036854775808) :
    (∀ e e', m.Reachable e → m.Reachable e' →
      (e.fullText = e'.fullText ↔ e.status = e'.status ∧ e.tape.cells = e'.tape.cells ∧
        e.tape.cursor = e'.tape.cursor) ∧
      (e.fullText = e'.fullText ↔ e.status = e'.status ∧
        ∀ d : Int, wordTape m.blank e.tape.cells (e.tape.cursor + d) =
          wordTape m.blank e'.tape.cells (e'.tape.cursor + d)) ∧
      (e.fullText = e'.fullText → ∀ n,
        (m.stepper.after n e).fullText = (m.stepper.after n e').fullText ∧
        (m.step (m.stepper.after n e)).1 = (m.step (m.stepper.after n e')).1 ∧
        (m.manySteps n e).1 = (m.manySteps n e').1)) ∧
    ∀ e, m.Reachable e → ∀ i j, i ≠ j → (m.stepper.after i e).status.isHalted = false →
      (m.stepper.after i e).fullText = (m.stepper.after j e).fullText →
      ∀ n, (m.manySteps n e).1 = .goesOn := by
  constructor
  · intro e e' h h'
    have htext := h.fullText_eq_iff_view_eq hstates h'
    refine ⟨htext.trans view_eq_iff_cells, htext.trans (h.view_eq_iff_wordTape h'), ?_⟩
    intro heq n
    have hview := m.view_after (htext.1 heq) n
    refine ⟨((h.after n).fullText_eq_iff_view_eq hstates (h'.after n)).2 hview,
      (m.step_of_view_eq hview).1, ?_⟩
    rw [manySteps_eq, manySteps_eq, (view_eq_iff.1 hview).1]
  · intro e h i j hij hrun heq n
    have hview := ((h.after i).fullText_eq_iff_view_eq hstates (h.after j)).1 heq
    have hstatus := (view_eq_iff.1 hview).1
    have hgoes : (m.stepper.after n e).status.isHalted = false := by
      rcases Nat.lt_or_gt_of_ne hij with hlt | hlt
      · exact not_isHalted_of_view_eq hlt hview hrun n
      · exact not_isHalted_of_view_eq hlt hview.symm (hstatus ▸ hrun) n
    rw [manySteps_eq]
    cases hs : (m.stepper.after n e).status with
    | running state => rw [Status.outcome]
    | halted halt =>
      rw [hs] at hgoes
      cases hgoes

/-- Walks up and down its input for ever: in state `1` to the right and in state `0` to the left,
turning at the blanks. -/
def pacer : TuringMachine Nat Nat where
  alphabet := .identity 2 .letter
  blank := 0
  inputs := .ofList [false, true]
  states := .identity 2 .state
  initial := 1
  transitions := .ofVectors #v[#v[1, 0, 1, 0, 1, -1], #v[0, 0, -1, 1, 1, 1]]
  fault?_eq_none := by decide +kernel

/-- On two letters the pacer is back after `6` steps, and so it never halts. -/
theorem pacer_fullText_fingerprint :
    pacer.states.size ≤ 9223372036854775808 ∧
      ∃ e, pacer.Reachable e ∧ e.fullText = "[1]>1 1" ∧
        (pacer.stepper.after 3 e).fullText = "1 [0]>1" ∧
        (pacer.stepper.after 6 e).fullText = "[1]>1 1" ∧
        (∀ n, (pacer.stepper.after n e).fullText =
          (pacer.stepper.after n (pacer.stepper.after 6 e)).fullText) ∧
        ∀ n, (pacer.manySteps n e).1 = .goesOn := by
  have hstates : pacer.states.size ≤ 9223372036854775808 := by decide +kernel
  obtain ⟨hpair, hloop⟩ := fullText_fingerprint hstates
  have hreach : pacer.Reachable (pacer.startOn (.ofWord 0 [1, 1])) :=
    .startById (show pacer.startById [1, 1] = _ from rfl)
  have hfirst : (pacer.startOn (.ofWord 0 [1, 1])).fullText = "[1]>1 1" := by decide +kernel
  have hagain :
      (pacer.stepper.after 6 (pacer.startOn (.ofWord 0 [1, 1]))).fullText = "[1]>1 1" := by
    decide +kernel
  have hsame := hfirst.trans hagain.symm
  refine ⟨hstates, _, hreach, hfirst, by decide +kernel, hagain, ?_, ?_⟩
  · intro n
    exact ((hpair _ _ hreach (hreach.after 6)).2.2 hsame n).1
  · exact hloop _ hreach 0 6 (by decide) rfl hsame

end TuringMachine

end TableMachines
