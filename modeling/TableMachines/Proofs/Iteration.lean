import Mathlib.Logic.Function.Iterate
import TableMachines.Stepper

/-!
# Repeated steps

`Stepper.after M n s` is the state after `n` single steps from `s`, halted or not. What a step
preserves, every number of steps preserves (`after_induction`). A run to the halt is read off the
single steps: when the first `n` of them go on and the next one halts, the run returns, within every
bound above `n` (`toHalt?_eq_some_of_after`) and without a bound (`haltsIn_of_after`).

A stepper is `Coherent` when a step reports the outcome of the state it leads to and a halted state
stays as it is. Its bounded runs are then the single steps themselves (`Coherent.many_eq`), and a
run without a bound ends in a state after some number of them (`HaltsIn.exists_after`).
-/

namespace TableMachines

namespace Stepper

variable {σ : Type}

/-- The state after `n` single steps. -/
def after (M : Stepper σ) (n : Nat) (s : σ) : σ := (fun s => (M.step s).2)^[n] s

@[simp]
theorem after_zero (M : Stepper σ) (s : σ) : M.after 0 s = s := rfl

theorem after_succ (M : Stepper σ) (n : Nat) (s : σ) :
    M.after (n + 1) s = (M.step (M.after n s)).2 :=
  Function.iterate_succ_apply' _ n s

theorem after_succ_apply (M : Stepper σ) (n : Nat) (s : σ) :
    M.after (n + 1) s = M.after n (M.step s).2 :=
  Function.iterate_succ_apply _ n s

/-- What a step preserves, every number of steps preserves. -/
theorem after_induction {M : Stepper σ} {P : σ → Prop} (hstep : ∀ s, P s → P (M.step s).2)
    {s : σ} (hs : P s) (n : Nat) : P (M.after n s) := by
  induction n with
  | zero => exact hs
  | succ n ih =>
    rw [after_succ]
    exact hstep _ ih

/-- Steppers that go in step are in step after every number of steps. -/
theorem after_map {τ : Type} {M : Stepper σ} {N : Stepper τ} (f : σ → τ)
    (hstep : ∀ s, (N.step (f s)).2 = f (M.step s).2) (n : Nat) (s : σ) :
    N.after n (f s) = f (M.after n s) := by
  induction n with
  | zero => rfl
  | succ n ih => rw [after_succ, after_succ, ih, hstep]

/-- When `n` steps go on and the next one halts, the bounded run ends with that step. -/
theorem toHalt?_eq_some_of_after {M : Stepper σ} {s : σ} {h : Halt} {n fuel : Nat}
    (hgo : ∀ k < n, (M.step (M.after k s)).1 = .goesOn)
    (hhalt : (M.step (M.after n s)).1 = .halt h) (hfuel : n < fuel) :
    M.toHalt? fuel s = some (h, M.after (n + 1) s) := by
  obtain ⟨fuel, rfl⟩ : ∃ k, fuel = k + 1 := ⟨fuel - 1, by omega⟩
  induction n generalizing s fuel with
  | zero => exact toHalt?_succ_of_halt (Prod.ext hhalt rfl) fuel
  | succ n ih =>
    have hfirst : M.step s = (.goesOn, (M.step s).2) := Prod.ext (hgo 0 (by omega)) rfl
    rw [toHalt?_succ_of_goesOn hfirst, after_succ_apply]
    obtain ⟨fuel, rfl⟩ : ∃ k, fuel = k + 1 := ⟨fuel - 1, by omega⟩
    refine ih ?_ ?_ fuel (by omega)
    · intro k hk
      rw [← after_succ_apply]
      exact hgo (k + 1) (by omega)
    · rw [← after_succ_apply]
      exact hhalt

/-- When `n` steps go on and the next one halts, the run without a bound returns. -/
theorem haltsIn_of_after {M : Stepper σ} {s : σ} {h : Halt} {n : Nat}
    (hgo : ∀ k < n, (M.step (M.after k s)).1 = .goesOn)
    (hhalt : (M.step (M.after n s)).1 = .halt h) : M.HaltsIn s h (M.after (n + 1) s) :=
  exists_toHalt?_eq_some_iff.1 ⟨n + 1, toHalt?_eq_some_of_after hgo hhalt n.lt_succ_self⟩

theorem after_add (M : Stepper σ) (i j : Nat) (s : σ) :
    M.after (i + j) s = M.after j (M.after i s) := by
  rw [Nat.add_comm]
  exact Function.iterate_add_apply _ j i s

theorem HaltsIn.exists_after {M : Stepper σ} {s t : σ} {h : Halt} (hrun : M.HaltsIn s h t) :
    ∃ n, t = M.after n s := by
  induction hrun with
  | last hstep => exact ⟨1, by rw [after_succ_apply, hstep, after_zero]⟩
  | next hstep _ ih =>
    obtain ⟨n, ih⟩ := ih
    exact ⟨n + 1, by rw [after_succ_apply, hstep, ih]⟩

/-! ## Coherent steppers -/

/-- A step reports the outcome of the state it leads to, and a halt is final. -/
structure Coherent (M : Stepper σ) : Prop where
  fst_step : ∀ s, (M.step s).1 = M.outcome (M.step s).2
  step_of_halt : ∀ {s : σ} {h : Halt}, M.outcome s = .halt h → M.step s = (.halt h, s)

namespace Coherent

variable {M : Stepper σ} {s : σ} {h : Halt}

theorem after_of_halt (hM : M.Coherent) (hs : M.outcome s = .halt h) (n : Nat) :
    M.after n s = s := by
  induction n with
  | zero => rfl
  | succ n ih => rw [after_succ, ih, hM.step_of_halt hs]

theorem after_of_halt_of_le (hM : M.Coherent) {i j : Nat} (hs : M.outcome (M.after i s) = .halt h)
    (hij : i ≤ j) : M.after j s = M.after i s := by
  obtain ⟨k, rfl⟩ := Nat.exists_eq_add_of_le hij
  rw [after_add, hM.after_of_halt hs]

/-- A bounded run is that many single steps: once it has stopped early, single steps change
nothing. -/
theorem many_eq (hM : M.Coherent) (n : Nat) (s : σ) :
    M.many n s = (M.outcome (M.after n s), M.after n s) := by
  induction n generalizing s with
  | zero => rfl
  | succ n ih =>
    have hfst := hM.fst_step s
    rw [after_succ_apply]
    match hstep : M.step s with
    | (.goesOn, t) => rw [many_succ_of_goesOn hstep, ih]
    | (.halt halt, t) =>
      rw [hstep] at hfst
      rw [many_succ_of_halt hstep, hM.after_of_halt hfst.symm, ← hfst]

end Coherent

end Stepper

end TableMachines
