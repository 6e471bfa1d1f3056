import TableMachines.Control

/-!
# Steppers

A stepper makes one step at a time and tells after each step whether it has halted. Two runs come
with it: `many` makes at most a given number of steps, and `toHalt?` makes steps until one of them
halts, if that happens within a given bound. `HaltsIn` is the run without a bound, as a relation;
`exists_toHalt?_eq_some_iff` says that a bound can be found exactly when the unbounded run returns.
-/

namespace TableMachines

/-- Something that makes steps and may halt. -/
structure Stepper (σ : Type) where
  /-- One step, with what it reports. -/
  step : σ → Outcome × σ
  /-- What is reported without making a step. -/
  outcome : σ → Outcome

namespace Stepper

variable {σ : Type}

/-- Makes at most `n` steps, and none after one that halts. -/
def many (M : Stepper σ) : Nat → σ → Outcome × σ
  | 0, s => (M.outcome s, s)
  | n + 1, s =>
    match M.step s with
    | (.halt h, t) => (.halt h, t)
    | (.goesOn, t) => M.many n t

/-- Makes steps up to the one that halts, if it is among the first `fuel`. -/
def toHalt? (M : Stepper σ) : (fuel : Nat) → σ → Option (Halt × σ)
  | 0, _ => none
  | fuel + 1, s =>
    match M.step s with
    | (.halt h, t) => some (h, t)
    | (.goesOn, t) => M.toHalt? fuel t

/-- Steps made until one halts end with the given halt and state. -/
inductive HaltsIn (M : Stepper σ) : σ → Halt → σ → Prop where
  | last {s t : σ} {h : Halt} : M.step s = (.halt h, t) → HaltsIn M s h t
  | next {s t u : σ} {h : Halt} : M.step s = (.goesOn, t) → HaltsIn M t h u → HaltsIn M s h u

/-- Steppers that go in step have the same bounded runs. -/
theorem many_map {τ : Type} {M : Stepper σ} {N : Stepper τ} (f : σ → τ)
    (hstep : ∀ s, N.step (f s) = ((M.step s).1, f (M.step s).2))
    (houtcome : ∀ s, N.outcome (f s) = M.outcome s) (n : Nat) (s : σ) :
    N.many n (f s) = ((M.many n s).1, f (M.many n s).2) := by
  induction n generalizing s with
  | zero => simp [many, houtcome]
  | succ n ih =>
    match h : M.step s with
    | (.halt _, _) => simp [many, hstep, h]
    | (.goesOn, t) => simp [many, hstep, h, ih t]

/-- Steppers that go in step have the same runs to a halt. -/
theorem toHalt?_map {τ : Type} {M : Stepper σ} {N : Stepper τ} (f : σ → τ)
    (hstep : ∀ s, N.step (f s) = ((M.step s).1, f (M.step s).2)) (fuel : Nat) (s : σ) :
    N.toHalt? fuel (f s) = (M.toHalt? fuel s).map fun run => (run.1, f run.2) := by
  induction fuel generalizing s with
  | zero => rfl
  | succ fuel ih =>
    match h : M.step s with
    | (.halt _, _) => simp [toHalt?, hstep, h]
    | (.goesOn, t) => simp [toHalt?, hstep, h, ih t]

theorem many_succ_of_goesOn {M : Stepper σ} {s t : σ} (h : M.step s = (.goesOn, t)) (n : Nat) :
    M.many (n + 1) s = M.many n t := by
  rw [many, h]

theorem many_succ_of_halt {M : Stepper σ} {s t : σ} {h : Halt} (e : M.step s = (.halt h, t))
    (n : Nat) : M.many (n + 1) s = (.halt h, t) := by
  rw [many, e]

theorem toHalt?_succ_of_goesOn {M : Stepper σ} {s t : σ} (h : M.step s = (.goesOn, t))
    (fuel : Nat) : M.toHalt? (fuel + 1) s = M.toHalt? fuel t := by
  rw [toHalt?, h]

theorem toHalt?_succ_of_halt {M : Stepper σ} {s t : σ} {h : Halt} (e : M.step s = (.halt h, t))
    (fuel : Nat) : M.toHalt? (fuel + 1) s = some (h, t) := by
  rw [toHalt?, e]

/-- The run without a bound returns exactly when the bounded run does for some bound. -/
theorem exists_toHalt?_eq_some_iff {M : Stepper σ} {s t : σ} {h : Halt} :
    (∃ fuel, M.toHalt? fuel s = some (h, t)) ↔ M.HaltsIn s h t := by
  constructor
  · rintro ⟨fuel, hrun⟩
    induction fuel generalizing s with
    | zero => cases hrun
    | succ fuel ih =>
      match hstep : M.step s with
      | (.halt _, _) =>
        rw [toHalt?_succ_of_halt hstep] at hrun
        cases hrun
        exact .last hstep
      | (.goesOn, _) =>
        rw [toHalt?_succ_of_goesOn hstep] at hrun
        exact .next hstep (ih hrun)
  · intro hrun
    induction hrun with
    | last hstep => exact ⟨1, toHalt?_succ_of_halt hstep 0⟩
    | next hstep _ ih =>
      obtain ⟨fuel, ih⟩ := ih
      exact ⟨fuel + 1, (toHalt?_succ_of_goesOn hstep fuel).trans ih⟩

end Stepper

end TableMachines
