import TableMachines.Catalog
import TableMachines.Proofs.BoundedRuns
import TableMachines.Proofs.BuildTuring
import TableMachines.Proofs.Language

/-!
# The busy beaver on its input words

The three-state busy beaver halts on every word that it can be started on, and accepts it. Its words
are the words of `1`s (`IsBeaver.startById_eq_ok_iff`). On the empty word it makes 13 steps and
leaves six `1`s; on `n` letters, for `n` from 1 on, it makes `n + 9` steps and leaves `n + 4` of
them (`busyBeaver3_accepts_ones`).

On a word with letters the run has three parts. It writes three cells left of the word and turns
(`IsBeaver.after_turn`), goes over all `1`s to the right, which is the part that depends on the word
(`after_sweep`), and goes back over two cells behind the word (`IsBeaver.after_return`). The parts
are put together in `IsBeaver.after_ones`.
-/

namespace TableMachines

namespace TuringMachine

variable {A S : Type} {m : TuringMachine A S} {e : Execution} {state letter write c : Nat}
  {next : Status} {left right : List Nat}

/-! ## Steps on a tape with letters -/

theorem after_succ_of_action {action : Action} (h : m.action? state letter = some action)
    (k : Nat) : m.stepper.after (k + 1) ⟨⟨left, letter, right⟩, .running state, c⟩ =
      m.stepper.after k (Execution.carryOut m.blank ⟨⟨left, letter, right⟩, .running state, c⟩
        action) := by
  rw [Stepper.after_succ_apply]
  change m.stepper.after k (m.step _).2 = _
  rw [step_of_running rfl h]

theorem after_succ_right (h : m.action? state letter = some ⟨next, write, .right⟩)
    (hwrite : write ≠ m.blank) (k : Nat) :
    m.stepper.after (k + 1) ⟨⟨left, letter, right⟩, .running state, c⟩ =
      m.stepper.after k ⟨⟨write :: left, right.headD m.blank, right.tail⟩, next, c + 1⟩ := by
  rw [after_succ_of_action h]
  simp [Execution.carryOut, Tape.write, Tape.move, Tape.moveRight, Tape.leave, hwrite]

theorem after_succ_left (h : m.action? state letter = some ⟨next, write, .left⟩)
    (hwrite : write ≠ m.blank) (k : Nat) :
    m.stepper.after (k + 1) ⟨⟨left, letter, right⟩, .running state, c⟩ =
      m.stepper.after k ⟨⟨left.tail, left.headD m.blank, write :: right⟩, next, c + 1⟩ := by
  rw [after_succ_of_action h]
  simp [Execution.carryOut, Tape.write, Tape.move, Tape.moveLeft, Tape.leave, hwrite]

theorem after_succ_stay (h : m.action? state letter = some ⟨next, write, .stay⟩) (k : Nat) :
    m.stepper.after (k + 1) ⟨⟨left, letter, right⟩, .running state, c⟩ =
      m.stepper.after k ⟨⟨left, write, right⟩, next, c + 1⟩ :=
  after_succ_of_action h k

/-- A state that goes over a letter to the right goes over all of them. -/
theorem after_sweep (h : m.action? state letter = some ⟨.running state, letter, .right⟩)
    (hletter : letter ≠ m.blank) (k : Nat) :
    m.stepper.after (k + 1) ⟨⟨left, letter, List.replicate k letter⟩, .running state, c⟩ =
      ⟨⟨List.replicate (k + 1) letter ++ left, m.blank, []⟩, .running state, c + (k + 1)⟩ := by
  induction k generalizing left c with
  | zero => exact after_succ_right h hletter 0
  | succ k ih =>
    have hcells : List.replicate (k + 1) letter ++ letter :: left =
        List.replicate (k + 1 + 1) letter ++ left := by
      rw [List.replicate_succ' (n := k + 1), List.append_assoc, List.singleton_append]
    have hcount : c + 1 + (k + 1) = c + (k + 1 + 1) := by omega
    rw [after_succ_right h hletter]
    change m.stepper.after (k + 1)
      ⟨⟨letter :: left, letter, List.replicate k letter⟩, .running state, c + 1⟩ = _
    rw [ih, hcells, hcount]

/-! ## Runs that accept -/

/-- From an execution the machine makes so many steps, the last of which accepts, and leaves these
cells and this place of the head. The run to the halt returns what is then there. -/
structure AcceptsIn (m : TuringMachine A S) (e : Execution) (steps : Nat) (cells : List Nat)
    (cursor : Nat) : Prop where
  haltTime_eq : m.stepper.haltTime e = steps
  status_eq : (m.stepper.after steps e).status = .halted .accept
  stepCount_eq : (m.stepper.after steps e).stepCount = e.stepCount + steps
  cells_eq : (m.stepper.after steps e).tape.cells = cells
  cursor_eq : (m.stepper.after steps e).tape.cursor = cursor
  haltsIn : m.stepper.HaltsIn e .accept (m.stepper.after steps e)

theorem many_of_status {n : Nat} {halt : Halt}
    (h : (m.stepper.after n e).status = .halted halt) :
    m.stepper.many n e = (.halt halt, m.stepper.after n e) := by
  rw [m.coherent_stepper.many_eq]
  exact Prod.ext (Status.outcome_eq_halt_iff.2 h) rfl

/-- When the execution has accepted after as many steps as it counts, the last of them did so. -/
theorem acceptsIn_of_after {steps : Nat} {tape : Tape} (hrange : e.InRange m)
    (hafter : m.stepper.after steps e = ⟨tape, .halted .accept, e.stepCount + steps⟩) :
    m.AcceptsIn e steps tape.cells tape.cursor := by
  have hle : m.stepper.haltTime e ≤ steps := by
    rw [haltTime_le_iff, hafter]
    exact ⟨.accept, rfl⟩
  have hge : (steps : ENat) ≤ m.stepper.haltTime e := by
    have hcount := hrange.stepCount_after steps
    rw [hafter, Nat.cast_add] at hcount
    have hmin := ENat.add_right_injective_of_ne_top (ENat.natCast_ne_top e.stepCount) hcount
    exact hmin.trans_le (min_le_right _ _)
  refine ⟨le_antisymm hle hge, ?_, ?_, ?_, ?_,
    m.coherent_stepper.haltsIn_iff_exists_many.2 ⟨steps, many_of_status (by rw [hafter])⟩⟩
  all_goals rw [hafter]

theorem AcceptsIn.acceptsById?_eq {word : List Nat} {steps fuel cursor : Nat} {cells : List Nat}
    (h : m.AcceptsIn e steps cells cursor) (hstart : m.startById word = .ok e) (hpos : 0 < fuel)
    (hfuel : steps ≤ fuel) : m.acceptsById? fuel word = .ok (some true) := by
  obtain ⟨k, rfl⟩ := Nat.exists_eq_add_of_le hfuel
  have hmany := m.coherent_stepper.many_add_of_halt (many_of_status h.status_eq) k
  exact acceptsById?_eq_ok hstart (m.coherent_stepper.toHalt?_eq_some_iff.2 ⟨hpos, hmany⟩)

/-! ## The busy beaver -/

/-- The parts of the busy beaver and its six rules, all of which write a `1`. -/
structure IsBeaver (m : TuringMachine A S) : Prop where
  blank_eq : m.blank = 0
  initial_eq : m.initial = 0
  isInputById_iff : ∀ letter, m.isInputById letter ↔ letter = 1
  action?_zero_zero : m.action? 0 0 = some ⟨.running 1, 1, .right⟩
  action?_zero_one : m.action? 0 1 = some ⟨.running 2, 1, .left⟩
  action?_one_zero : m.action? 1 0 = some ⟨.running 0, 1, .left⟩
  action?_one_one : m.action? 1 1 = some ⟨.running 1, 1, .right⟩
  action?_two_zero : m.action? 2 0 = some ⟨.running 1, 1, .left⟩
  action?_two_one : m.action? 2 1 = some ⟨.halted .accept, 1, .stay⟩

theorem isBeaver_of_busyBeaver3 {m : TuringMachine Nat Nat} (h : Catalog.busyBeaver3 = .ok m) :
    m.IsBeaver := by
  obtain ⟨hblank, hinputs, hinitial, htransitions⟩ := parts_of_build _ _ _ _ _ _ h
  refine ⟨hblank, hinitial, ?_, ?_, ?_, ?_, ?_, ?_, ?_⟩
  · intro letter
    rw [isInputById, hinputs]
    rcases letter with _ | _ | letter <;> simp [Column.get?, Column.ofList]
  all_goals
    simp only [action?, htransitions]
    decide +kernel

namespace IsBeaver

theorem one_ne_blank (hm : m.IsBeaver) : 1 ≠ m.blank := by
  rw [hm.blank_eq]
  decide

theorem startById_eq_ok_iff (hm : m.IsBeaver) {word : List Nat} :
    m.startById word = .ok e ↔
      (∃ n, word = List.replicate n 1) ∧ e = m.startOn (.ofWord m.blank word) := by
  have hones : (∀ letter ∈ word, letter = 1) ↔ ∃ n, word = List.replicate n 1 := by
    constructor
    · intro h
      exact ⟨word.length, List.eq_replicate_of_mem h⟩
    · rintro ⟨n, rfl⟩ letter hmem
      exact List.eq_of_mem_replicate hmem
  simp only [TuringMachine.startById_eq_ok_iff, hm.isInputById_iff, hones]

/-- From the left end of the word, three cells are written before the head turns. -/
theorem after_turn (hm : m.IsBeaver) (right : List Nat) (c : Nat) :
    m.stepper.after 4 ⟨⟨[], 1, right⟩, .running 0, c⟩ =
      ⟨⟨[1], 1, 1 :: 1 :: right⟩, .running 1, c + 4⟩ := by
  have hone := hm.one_ne_blank
  rw [after_succ_left hm.action?_zero_one hone, List.tail_nil, List.headD_nil, hm.blank_eq,
    after_succ_left hm.action?_two_zero hone, List.tail_nil, List.headD_nil, hm.blank_eq,
    after_succ_left hm.action?_one_zero hone, List.tail_nil, List.headD_nil, hm.blank_eq,
    after_succ_right hm.action?_zero_zero hone]
  rfl

theorem after_return (hm : m.IsBeaver) (left : List Nat) (c : Nat) :
    m.stepper.after 3 ⟨⟨1 :: 1 :: left, 0, []⟩, .running 1, c⟩ =
      ⟨⟨left, 1, [1, 1]⟩, .halted .accept, c + 3⟩ := by
  have hone := hm.one_ne_blank
  rw [after_succ_left hm.action?_one_zero hone, List.tail_cons, List.headD_cons,
    after_succ_left hm.action?_zero_one hone, List.tail_cons, List.headD_cons,
    after_succ_stay hm.action?_two_one]
  rfl

theorem after_ones (hm : m.IsBeaver) (n c : Nat) :
    m.stepper.after (n + 10) ⟨⟨[], 1, List.replicate n 1⟩, .running 0, c⟩ =
      ⟨⟨List.replicate (n + 2) 1, 1, [1, 1]⟩, .halted .accept, c + (n + 10)⟩ := by
  have hsteps : n + 10 = 4 + (n + 2 + 1) + 3 := by omega
  have hleft : List.replicate (n + 2 + 1) 1 ++ [1] = 1 :: 1 :: List.replicate (n + 2) 1 :=
    List.replicate_succ'.symm
  have hcount : c + 4 + (n + 2 + 1) + 3 = c + (n + 10) := by omega
  calc m.stepper.after (n + 10) ⟨⟨[], 1, List.replicate n 1⟩, .running 0, c⟩
      = m.stepper.after 3 (m.stepper.after (n + 2 + 1)
          ⟨⟨[1], 1, List.replicate (n + 2) 1⟩, .running 1, c + 4⟩) := by
        rw [hsteps, Stepper.after_add, Stepper.after_add, hm.after_turn]
        rfl
    _ = m.stepper.after 3 ⟨⟨1 :: 1 :: List.replicate (n + 2) 1, 0, []⟩, .running 1,
          c + 4 + (n + 2 + 1)⟩ := by
        rw [after_sweep hm.action?_one_one hm.one_ne_blank, hleft, hm.blank_eq]
    _ = _ := by rw [hm.after_return, hcount]

/-- On the blank tape, two steps lead to where the run on two letters starts. -/
theorem after_blank (hm : m.IsBeaver) :
    m.stepper.after 13 ⟨⟨[], 0, []⟩, .running 0, 0⟩ =
      ⟨⟨List.replicate 3 1, 1, [1, 1]⟩, .halted .accept, 13⟩ := by
  have hone := hm.one_ne_blank
  rw [after_succ_right hm.action?_zero_zero hone, List.tail_nil, List.headD_nil, hm.blank_eq,
    after_succ_left hm.action?_one_zero hone, List.tail_cons, List.headD_cons]
  exact hm.after_ones 1 2

theorem startById_nil (hm : m.IsBeaver) : m.startById [] = .ok m.startBlank :=
  hm.startById_eq_ok_iff.2 ⟨⟨0, rfl⟩, rfl⟩

theorem acceptsIn_blank (hm : m.IsBeaver) :
    m.AcceptsIn m.startBlank 13 (List.replicate 6 1) 3 := by
  have hstart : m.startBlank = ⟨⟨[], 0, []⟩, .running 0, 0⟩ := by
    rw [startBlank, startOn, hm.initial_eq, hm.blank_eq]
    rfl
  have hrange : m.startBlank.InRange m := StartsOn.blank.inRange
  rw [hstart] at hrange ⊢
  exact acceptsIn_of_after hrange hm.after_blank

theorem exists_acceptsIn_ones (hm : m.IsBeaver) (n : Nat) :
    ∃ e, m.startById (List.replicate (n + 1) 1) = .ok e ∧
      m.AcceptsIn e (n + 10) (List.replicate (n + 5) 1) (n + 2) := by
  have hstart : m.startById (List.replicate (n + 1) 1) =
      .ok ⟨⟨[], 1, List.replicate n 1⟩, .running 0, 0⟩ := by
    rw [hm.startById_eq_ok_iff, startOn, hm.initial_eq]
    exact ⟨⟨n + 1, rfl⟩, rfl⟩
  have hcells : (Tape.mk (List.replicate (n + 2) 1) 1 [1, 1]).cells = List.replicate (n + 5) 1 := by
    rw [Tape.cells, List.reverse_replicate]
    change List.replicate (n + 2) 1 ++ List.replicate 3 1 = _
    rw [List.replicate_append_replicate]
  have hcursor : (Tape.mk (List.replicate (n + 2) 1) 1 [1, 1]).cursor = n + 2 :=
    List.length_replicate
  have haccepts := acceptsIn_of_after (StartsOn.byId hstart).inRange (hm.after_ones n 0)
  rw [hcells, hcursor] at haccepts
  exact ⟨_, hstart, haccepts⟩

/-- The busy beaver accepts every word that it can be started on, with at most 13 steps more than
there are letters. -/
theorem exists_acceptsIn (hm : m.IsBeaver) {word : List Nat} (hstart : m.startById word = .ok e) :
    ∃ steps cells cursor, m.AcceptsIn e steps cells cursor ∧ steps ≤ word.length + 13 := by
  obtain ⟨⟨n, rfl⟩, -⟩ := hm.startById_eq_ok_iff.1 hstart
  cases n with
  | zero =>
    cases hstart.symm.trans hm.startById_nil
    exact ⟨_, _, _, hm.acceptsIn_blank, by simp⟩
  | succ n =>
    obtain ⟨e', hstart', haccepts⟩ := hm.exists_acceptsIn_ones n
    cases hstart.symm.trans hstart'
    refine ⟨_, _, _, haccepts, ?_⟩
    rw [List.length_replicate]
    omega

end IsBeaver

end TuringMachine

namespace Catalog

/-- The busy beaver can be started on the words of `1`s and no others. On the empty word it accepts
with its step 13 and leaves six `1`s. On `n` letters, for `n` from 1 on, it accepts with its step
`n + 9` and leaves `n + 4` of them, with the head at `n + 1`. So it accepts every word that it can
be started on. -/
theorem busyBeaver3_accepts_ones :
    ∃ m, busyBeaver3 = .ok m ∧
      (∀ word, (∃ e, m.startById word = .ok e) ↔ ∃ n, word = List.replicate n 1) ∧
      (m.startById [] = .ok m.startBlank ∧ m.AcceptsIn m.startBlank 13 (List.replicate 6 1) 3) ∧
      (∀ n ≥ 1, ∃ e, m.startById (List.replicate n 1) = .ok e ∧
        m.AcceptsIn e (n + 9) (List.replicate (n + 4) 1) (n + 1)) ∧
      ∀ word e, m.startById word = .ok e → (∃ e', m.stepper.HaltsIn e .accept e') ∧
        ∀ fuel ≥ word.length + 13, m.acceptsById? fuel word = .ok (some true) := by
  have hbuilt : errorOf? busyBeaver3 = none := by decide +kernel
  obtain ⟨m, h⟩ := errorOf?_eq_none_iff.1 hbuilt
  have hm := TuringMachine.isBeaver_of_busyBeaver3 h
  refine ⟨m, h, ?_, ⟨hm.startById_nil, hm.acceptsIn_blank⟩, ?_, ?_⟩
  · intro word
    simp [hm.startById_eq_ok_iff]
  · intro n hn
    obtain ⟨k, rfl⟩ := Nat.exists_eq_add_of_le' hn
    exact hm.exists_acceptsIn_ones k
  · intro word e hstart
    obtain ⟨steps, cells, cursor, haccepts, hle⟩ := hm.exists_acceptsIn hstart
    refine ⟨⟨_, haccepts.haltsIn⟩, ?_⟩
    intro fuel hfuel
    exact haccepts.acceptsById?_eq hstart (by omega) (by omega)

/-- Three letters are accepted with step 12, and seven of them are left. -/
theorem three_busyBeaver3_accepts_ones :
    ∃ m e, busyBeaver3 = .ok m ∧ m.startById [1, 1, 1] = .ok e ∧
      m.AcceptsIn e 12 [1, 1, 1, 1, 1, 1, 1] 4 ∧
      m.acceptsById? 16 [1, 1, 1] = .ok (some true) := by
  obtain ⟨m, hm, -, -, hones, hruns⟩ := busyBeaver3_accepts_ones
  obtain ⟨e, hstart, haccepts⟩ := hones 3 (by decide)
  obtain ⟨-, hfuel⟩ := hruns [1, 1, 1] e hstart
  exact ⟨m, e, hm, hstart, haccepts, hfuel 16 (by decide)⟩

end Catalog

end TableMachines
