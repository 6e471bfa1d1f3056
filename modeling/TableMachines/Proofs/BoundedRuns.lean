import Mathlib.Data.ENat.Lattice
import TableMachines.Proofs.Reachable

/-!
# Runs cut into pieces

Single steps, bounded runs and the run to the halt are the same run, cut in different places. Of a
coherent stepper this is shown in general: a bounded run goes on where another one has ended
(`Coherent.many_many`), a run to the halt within a bound is a bounded run that reports a halt
(`Coherent.toHalt?_eq_some_iff`), and the run without a bound returns what every bounded run that is
long enough returns (`Coherent.haltsIn_iff_of_many`).

A Turing machine counts its steps until it halts and no further. `Stepper.haltTime` is the number of
steps to the halt, infinite when there is none, and `n` steps add the smaller of it and `n` to the
count (`Execution.InRange.stepCount_after`).
-/

namespace TableMachines

/-! ## Steppers -/

namespace Stepper

variable {σ : Type} {M : Stepper σ} {s t : σ} {h : Halt}

/-- The number of steps to the first state that has halted, infinite when there is none. -/
noncomputable def haltTime (M : Stepper σ) (s : σ) : ENat :=
  ⨅ (n : Nat) (_ : ∃ h, M.outcome (M.after n s) = .halt h), (n : ENat)

namespace Coherent

theorem haltTime_le_iff (hM : M.Coherent) (n : Nat) :
    M.haltTime s ≤ n ↔ ∃ h, M.outcome (M.after n s) = .halt h := by
  constructor
  · intro hle
    by_contra hrunning
    -- a halt by the time `n` would have stayed until then, so that all halts come later
    have hlater : ((n + 1 : Nat) : ENat) ≤ M.haltTime s := by
      refine le_iInf₂ fun k hk => ?_
      obtain ⟨h, hk⟩ := hk
      rw [Nat.cast_le]
      by_contra hlt
      refine hrunning ⟨h, ?_⟩
      rw [hM.after_of_halt_of_le hk (by omega), hk]
    have := Nat.cast_le.1 (hlater.trans hle)
    omega
  · intro hhalt
    exact iInf₂_le n hhalt

theorem many_of_halt (hM : M.Coherent) (hs : M.outcome s = .halt h) (n : Nat) :
    M.many n s = (.halt h, s) := by
  rw [hM.many_eq, hM.after_of_halt hs, hs]

/-- A bounded run goes on where another one has ended. -/
theorem many_many (hM : M.Coherent) (i j : Nat) (s : σ) :
    M.many j (M.many i s).2 = M.many (i + j) s := by
  rw [hM.many_eq i, hM.many_eq j, hM.many_eq (i + j), after_add]

/-- A bounded run reports what the last of its steps reports. -/
theorem fst_many_succ (hM : M.Coherent) (n : Nat) (s : σ) :
    (M.many (n + 1) s).1 = (M.step (M.after n s)).1 := by
  rw [hM.many_eq, hM.fst_step, after_succ]

theorem outcome_snd_many (hM : M.Coherent) (n : Nat) (s : σ) :
    M.outcome (M.many n s).2 = (M.many n s).1 := by
  rw [hM.many_eq]

/-- Longer runs than one that reports a halt do nothing more. -/
theorem many_add_of_halt (hM : M.Coherent) {n : Nat} (hrun : M.many n s = (.halt h, t)) (k : Nat) :
    M.many (n + k) s = (.halt h, t) := by
  have houtcome := hM.outcome_snd_many n s
  rw [hrun] at houtcome
  rw [← hM.many_many, hrun, hM.many_of_halt houtcome]

/-- A run to the halt makes a step at least, and is the bounded run that reports the halt. -/
theorem toHalt?_eq_some_iff (hM : M.Coherent) {n : Nat} :
    M.toHalt? n s = some (h, t) ↔ 0 < n ∧ M.many n s = (.halt h, t) := by
  induction n generalizing s with
  | zero => simp [toHalt?]
  | succ n ih =>
    have hfst := hM.fst_step s
    rcases hstep : M.step s with ⟨_ | _, u⟩
    · rw [hstep] at hfst
      rw [toHalt?_succ_of_goesOn hstep, many_succ_of_goesOn hstep, ih]
      -- no steps at all report a halt only in a state that has halted
      cases n with
      | zero => simp [many, ← hfst]
      | succ n => simp
    · rw [toHalt?_succ_of_halt hstep, many_succ_of_halt hstep]
      simp

/-- The run without a bound returns exactly when some bounded run reports a halt. -/
theorem haltsIn_iff_exists_many (hM : M.Coherent) :
    M.HaltsIn s h t ↔ ∃ n, M.many n s = (.halt h, t) := by
  rw [← exists_toHalt?_eq_some_iff]
  simp only [hM.toHalt?_eq_some_iff]
  constructor
  · rintro ⟨n, -, hrun⟩
    exact ⟨n, hrun⟩
  · rintro ⟨n, hrun⟩
    exact ⟨n + 1, n.succ_pos, hM.many_add_of_halt hrun 1⟩

/-- After a bounded run has reported a halt, the run without a bound can return nothing else. -/
theorem haltsIn_iff_of_many (hM : M.Coherent) {n : Nat} {h' : Halt} {t' : σ}
    (hrun : M.many n s = (.halt h, t)) : M.HaltsIn s h' t' ↔ h' = h ∧ t' = t := by
  rw [hM.haltsIn_iff_exists_many]
  constructor
  · rintro ⟨k, hrun'⟩
    have hsame := hM.many_add_of_halt hrun' n
    rw [Nat.add_comm, hM.many_add_of_halt hrun k] at hsame
    cases hsame
    exact ⟨rfl, rfl⟩
  · rintro ⟨rfl, rfl⟩
    exact ⟨n, hrun⟩

end Coherent

end Stepper

/-! ## Turing machines -/

namespace TuringMachine

variable {A S : Type} {m : TuringMachine A S} {e : Execution}

theorem haltTime_le_iff (m : TuringMachine A S) (e : Execution) (n : Nat) :
    m.stepper.haltTime e ≤ n ↔ ∃ halt, (m.stepper.after n e).status = .halted halt := by
  rw [m.coherent_stepper.haltTime_le_iff]
  exact exists_congr fun _ => Status.outcome_eq_halt_iff

theorem Execution.InRange.stepCount_step (h : e.InRange m) {state : Nat}
    (hs : e.status = .running state) : (m.step e).2.stepCount = e.stepCount + 1 := by
  rcases h.step_cases with ⟨halt, hhalted, -⟩ | ⟨state, action, -, -, -, hstep⟩
  · cases hs.symm.trans hhalted
  · rw [hstep, Execution.carryOut]

/-- Steps are counted up to the one that halts. -/
theorem Execution.InRange.stepCount_after (h : e.InRange m) (n : Nat) :
    ((m.stepper.after n e).stepCount : ENat) =
      e.stepCount + min (n : ENat) (m.stepper.haltTime e) := by
  induction n with
  | zero => simp
  | succ n ih =>
    have hhalted := m.haltTime_le_iff e n
    rw [Stepper.after_succ]
    change ((m.step (m.stepper.after n e)).2.stepCount : ENat) = _
    cases hs : (m.stepper.after n e).status with
    | halted halt =>
      have hle : m.stepper.haltTime e ≤ n := hhalted.2 ⟨halt, hs⟩
      rw [step_of_halted hs, ih, min_eq_right hle, min_eq_right (hle.trans (by simp))]
    | running state =>
      have hlt : (n : ENat) < m.stepper.haltTime e := by
        rw [← not_le, hhalted, hs]
        rintro ⟨halt, hhalt⟩
        cases hhalt
      rw [(h.after n).stepCount_step hs, Nat.cast_add, ih, Nat.cast_add, Nat.cast_one,
        min_eq_left hlt.le, min_eq_left (Order.add_one_le_of_lt hlt), add_assoc]

/-- From an execution, the single steps, the bounded runs and the run to the halt are one run. -/
structure Execution.RunsAgree (m : TuringMachine A S) (e : Execution) : Prop where
  /-- Two bounded runs, the second from where the first has ended, are one over all their steps. -/
  manySteps_manySteps : ∀ i j, m.manySteps j (m.manySteps i e).2 = m.manySteps (i + j) e
  /-- A bounded run leads to where as many single steps lead. -/
  snd_manySteps : ∀ n, (m.manySteps n e).2 = m.stepper.after n e
  /-- A bounded run reports what the last of these steps reports. -/
  fst_manySteps_succ : ∀ n, (m.manySteps (n + 1) e).1 = (m.step (m.stepper.after n e)).1
  step_reports_iff : ∀ halt, (m.step e).1 = .halt halt ↔ (m.step e).2.status = .halted halt
  manySteps_reports_iff : ∀ n halt,
    (m.manySteps n e).1 = .halt halt ↔ (m.manySteps n e).2.status = .halted halt
  stepCount_eq : ∀ n, ((m.manySteps n e).2.stepCount : ENat) =
    e.stepCount + min (n : ENat) (m.stepper.haltTime e)
  /-- After the halt nothing changes, and every run reports the halt again. -/
  rests : ∀ halt, e.status = .halted halt → m.step e = (.halt halt, e) ∧
    (∀ n, m.manySteps n e = (.halt halt, e)) ∧
    ∀ halt' e', m.stepper.HaltsIn e halt' e' ↔ halt' = halt ∧ e' = e
  returns_iff : (∃ halt e', m.stepper.HaltsIn e halt e') ↔
    ∃ n halt, (m.manySteps n e).1 = .halt halt
  /-- The run to the halt returns what each bounded run that reports a halt returns. -/
  returns_what : ∀ n halt, (m.manySteps n e).1 = .halt halt →
    ∀ halt' e', m.stepper.HaltsIn e halt' e' ↔ halt' = halt ∧ e' = (m.manySteps n e).2
  /-- Looked for within a bound, the halt is found when the bounded run reports it. -/
  runToHalt?_eq_some_iff : ∀ fuel halt e', m.runToHalt? fuel e = some (halt, e') ↔
    0 < fuel ∧ m.manySteps fuel e = (.halt halt, e')

/-- Whatever requests led to an execution, from there on it makes no difference how a run is cut
into single steps, bounded runs and runs to the halt. -/
theorem runsAgree_of_reachable [DecidableEq A] [Quoted A] (h : m.Reachable e) : e.RunsAgree m where
  manySteps_manySteps i j := m.coherent_stepper.many_many i j e
  snd_manySteps n := by rw [manySteps_eq]
  fst_manySteps_succ n := m.coherent_stepper.fst_many_succ n e
  step_reports_iff halt := by
    have hreport : (m.step e).1 = (m.step e).2.status.outcome := m.coherent_stepper.fst_step e
    rw [hreport, Status.outcome_eq_halt_iff]
  manySteps_reports_iff n halt := by rw [manySteps_eq, Status.outcome_eq_halt_iff]
  stepCount_eq n := by
    rw [manySteps_eq]
    exact h.inRange.stepCount_after n
  rests halt hs := by
    have hrest : ∀ n, m.manySteps n e = (.halt halt, e) :=
      m.coherent_stepper.many_of_halt (Status.outcome_eq_halt_iff.2 hs)
    exact ⟨step_of_halted hs, hrest, fun _ _ => m.coherent_stepper.haltsIn_iff_of_many (hrest 0)⟩
  returns_iff := by
    simp only [m.coherent_stepper.haltsIn_iff_exists_many, TuringMachine.manySteps, Prod.ext_iff]
    constructor
    · rintro ⟨halt, -, n, hrun, -⟩
      exact ⟨n, halt, hrun⟩
    · rintro ⟨n, halt, hrun⟩
      exact ⟨halt, _, n, hrun, rfl⟩
  returns_what n halt hrun _ _ := m.coherent_stepper.haltsIn_iff_of_many (Prod.ext hrun rfl)
  runToHalt?_eq_some_iff _ _ _ := m.coherent_stepper.toHalt?_eq_some_iff

/-- On three letters the nibbler halts with its step `14`. After `5` and `6` steps it is where it is
after `11`, in a run over `100` steps it counts `14`, and the run to the halt returns. -/
theorem nibbler_runsAgree_of_reachable :
    ∃ e, nibbler.Reachable e ∧ e.RunsAgree nibbler ∧
      nibbler.manySteps 6 (nibbler.manySteps 5 e).2 = nibbler.manySteps 11 e ∧
      min 100 (nibbler.stepper.haltTime e) = 14 ∧
      ∃ e', nibbler.stepper.HaltsIn e .accept e' ∧ e'.fullText = "[-2]>0" := by
  have hreach : nibbler.Reachable (nibbler.startOn (.ofWord 0 [1, 1, 1])) :=
    .startById (show nibbler.startById [1, 1, 1] = _ from rfl)
  have hagree := runsAgree_of_reachable hreach
  have hhalt :
      (nibbler.manySteps 100 (nibbler.startOn (.ofWord 0 [1, 1, 1]))).1 = .halt .accept := by
    decide +kernel
  have hcount :
      (nibbler.manySteps 100 (nibbler.startOn (.ofWord 0 [1, 1, 1]))).2.stepCount = 14 := by
    decide +kernel
  refine ⟨_, hreach, hagree, hagree.manySteps_manySteps 5 6, ?_, _,
    (hagree.returns_what 100 _ hhalt _ _).2 ⟨rfl, rfl⟩, by decide +kernel⟩
  have htime := hagree.stepCount_eq 100
  rw [hcount, show (nibbler.startOn (.ofWord 0 [1, 1, 1])).stepCount = 0 from rfl] at htime
  simpa using htime.symm

end TuringMachine

end TableMachines
