import TableMachines.Proofs.LeastWindow

/-!
# Reachable executions

The executions that a machine gets to, by whatever requests: it starts one on a word of letters, on
a word of letter ids or on the blank tape, and goes on with single steps, with bounded runs and with
runs to the halt, in any order. Executions are values, so that a copy of one is the execution itself
and goes its own way from there.

Turing machines are coherent steppers (`coherent_stepper`). So every reachable execution is the one
after some number of single steps from a start (`Reachable.exists_after`), in range and with a
trimmed window (`Reachable.inRange`, `Reachable.trimmed`).
-/

namespace TableMachines

namespace TuringMachine

variable {A S : Type} {m : TuringMachine A S} {e : Execution}

/-! ## Requests -/

theorem step_of_action?_eq_none {state : Nat} (hs : e.status = .running state)
    (ha : m.action? state e.tape.head = none) : m.step e = (.goesOn, e) := by
  simp [step, hs, ha]

theorem coherent_stepper (m : TuringMachine A S) : m.stepper.Coherent where
  fst_step e := by
    change (m.step e).1 = (m.step e).2.status.outcome
    cases hs : e.status with
    | halted halt =>
      rw [step_of_halted hs]
      simp only [hs, Status.outcome]
    | running state =>
      cases ha : m.action? state e.tape.head with
      | none =>
        rw [step_of_action?_eq_none hs ha]
        simp only [hs, Status.outcome]
      | some action =>
        rw [step_of_running hs ha]
        rfl
  step_of_halt hs := step_of_halted (Status.outcome_eq_halt_iff.1 hs)

/-- `n` steps at a time are `n` single steps. -/
theorem manySteps_eq (m : TuringMachine A S) (n : Nat) (e : Execution) :
    m.manySteps n e = ((m.stepper.after n e).status.outcome, m.stepper.after n e) :=
  m.coherent_stepper.many_eq n e

variable [DecidableEq A] [Quoted A]

/-- The executions that some sequence of requests leads to. -/
inductive Reachable (m : TuringMachine A S) : Execution → Prop where
  | start {word : List A} {e : Execution} : m.start word = .ok e → m.Reachable e
  | startById {word : List Nat} {e : Execution} : m.startById word = .ok e → m.Reachable e
  | startBlank : m.Reachable m.startBlank
  | step {e : Execution} : m.Reachable e → m.Reachable (m.step e).2
  | manySteps {e : Execution} (n : Nat) : m.Reachable e → m.Reachable (m.manySteps n e).2
  | runToHalt {e e' : Execution} {halt : Halt} : m.Reachable e → m.stepper.HaltsIn e halt e' →
      m.Reachable e'

/-! ## Reachable executions as numbers of steps -/

theorem exists_startsOn_of_start {word : List A} (h : m.start word = .ok e) :
    ∃ ids, m.StartsOn ids e := by
  unfold TuringMachine.start at h
  cases hids : word.mapM m.alphabet.idOf with
  | error err =>
    rw [hids] at h
    cases h
  | ok ids =>
    rw [hids] at h
    exact ⟨ids, .byId h⟩

/-- A reachable execution comes some number of single steps after a start. -/
theorem Reachable.exists_after (h : m.Reachable e) :
    ∃ word e₀ n, m.StartsOn word e₀ ∧ e = m.stepper.after n e₀ := by
  induction h with
  | start h =>
    obtain ⟨ids, h⟩ := exists_startsOn_of_start h
    exact ⟨ids, _, 0, h, rfl⟩
  | startById h => exact ⟨_, _, 0, .byId h, rfl⟩
  | startBlank => exact ⟨[], _, 0, .blank, rfl⟩
  | step _ ih =>
    obtain ⟨word, e₀, k, hstart, rfl⟩ := ih
    exact ⟨word, e₀, k + 1, hstart, (m.stepper.after_succ k e₀).symm⟩
  | manySteps n _ ih =>
    obtain ⟨word, e₀, k, hstart, rfl⟩ := ih
    exact ⟨word, e₀, k + n, hstart, by rw [manySteps_eq, Stepper.after_add]⟩
  | runToHalt _ hrun ih =>
    obtain ⟨word, e₀, k, hstart, rfl⟩ := ih
    obtain ⟨n, rfl⟩ := hrun.exists_after
    exact ⟨word, e₀, k + n, hstart, (m.stepper.after_add k n e₀).symm⟩

namespace Reachable

theorem after (h : m.Reachable e) (n : Nat) : m.Reachable (m.stepper.after n e) :=
  Stepper.after_induction (M := m.stepper) (fun _ => .step) h n

theorem inRange (h : m.Reachable e) : e.InRange m := by
  obtain ⟨word, e₀, n, hstart, rfl⟩ := h.exists_after
  exact hstart.inRange.after n

theorem trimmed (h : m.Reachable e) : e.tape.Trimmed m.blank := by
  obtain ⟨word, e₀, n, hstart, rfl⟩ := h.exists_after
  exact hstart.trimmed n

end Reachable

end TuringMachine

end TableMachines
