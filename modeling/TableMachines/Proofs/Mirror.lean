import TableMachines.Proofs.BuildTuring
import TableMachines.Proofs.Safety

/-!
# Mirrored machines

The mirror image of a machine has the same letters and states and moves the other way: the direction
cells of its table are negated, which makes a machine again (`TuringMachine.mirror`), built like the
machine itself from the changed table (`build_mirror`).

Moves to the left and to the right keep the window in different ways, at its two ends and with the
cursor counted from the left. Nevertheless they are mirror images of each other, on tapes
(`Tape.mirror_move`) and on plain strips of cells (`stripStep?_mirror`), so that the mirror image of
a machine makes the mirror images of its steps (`step_mirror`). From words that are their own mirror
image the two run as mirror images for ever.
-/

namespace TableMachines

/-! ## Directions and tables -/

/-- The direction seen in a mirror. -/
def Direction.mirror : Direction → Direction
  | left => right
  | stay => stay
  | right => left

/-- The code of the mirrored direction is the negated code, and no other number becomes a code. -/
theorem Direction.ofCode?_neg (c : Int32) : ofCode? (-c) = (ofCode? c).map mirror := by
  have hneg (d : Int32) : -c = d ↔ c = -d := by
    constructor
    · rintro rfl
      exact (Int32.neg_neg).symm
    · rintro rfl
      exact Int32.neg_neg
  unfold ofCode?
  simp only [hneg]
  by_cases hleft : c = -1
  · subst hleft
    rfl
  · by_cases hstay : c = 0
    · subst hstay
      rfl
    · by_cases hright : c = 1
      · subst hright
        rfl
      · rw [if_neg hright]
        simp [hleft, hstay, hright]

/-- The action with its direction mirrored. -/
def Action.mirror (action : Action) : Action := { action with direction := action.direction.mirror }

/-- The table with each cell changed in a way that may depend on its column. -/
def Table.mapColumns {α : Type} (f : Nat → α → α) (t : Table α) : Table α where
  rows := t.rows
  cols := t.cols
  cells := t.cells.mapIdx fun i cell => f (i % t.cols) cell
  size_cells := by rw [Array.size_mapIdx, t.size_cells]

theorem Table.get?_mapColumns {α : Type} (f : Nat → α → α) (t : Table α) (row col : Nat) :
    (t.mapColumns f).get? row col = (t.get? row col).map (f col) := by
  by_cases h : row < t.rows ∧ col < t.cols
  · have hcol : (row * t.cols + col) % t.cols = col := by
      rw [Nat.mul_comm, Nat.mul_add_mod, Nat.mod_eq_of_lt h.2]
    have hr : row < (t.mapColumns f).rows := h.1
    have hc : col < (t.mapColumns f).cols := h.2
    rw [t.get?_of_lt h.1 h.2, get?_of_lt _ hr hc]
    simp [cell, mapColumns, hcol]
  · rw [get?, get?, dif_neg h]
    exact dif_neg h

/-- Negates a cell in a column for directions and leaves other cells as they are. -/
def mirrorCell (column : Nat) (cell : Int32) : Int32 := if column % 3 = 2 then -cell else cell

theorem mirrorCell_next (letter : Nat) : mirrorCell (3 * letter) = id := by
  funext cell
  exact if_neg (by omega)

theorem mirrorCell_write (letter : Nat) : mirrorCell (3 * letter + 1) = id := by
  funext cell
  exact if_neg (by omega)

theorem mirrorCell_direction (letter : Nat) : mirrorCell (3 * letter + 2) = (-·) := by
  funext cell
  exact if_pos (by omega)

/-! ## Tapes -/

namespace Tape

/-- The tape seen from behind. -/
def mirror (t : Tape) : Tape := ⟨t.right, t.head, t.left⟩

theorem mirror_write (t : Tape) (letter : Nat) :
    (t.write letter).mirror = t.mirror.write letter := rfl

theorem mirror_move (blank : Nat) (t : Tape) (direction : Direction) :
    (t.move blank direction).mirror = t.mirror.move blank direction.mirror := by
  cases direction <;> rfl

theorem cells_mirror (t : Tape) : t.mirror.cells = t.cells.reverse := by
  simp [cells, mirror]

theorem cursor_mirror (t : Tape) : t.mirror.cursor = t.cells.length - 1 - t.cursor := by
  rw [length_cells]
  change t.right.length = t.left.length + 1 + t.right.length - 1 - t.left.length
  omega

end Tape

/-- The cells in the other order, with the cursor on the same cell. -/
def Strip.mirror (s : Strip) : Strip := ⟨s.cells.reverse, s.cells.length - 1 - s.cursor⟩

theorem Tape.strip_mirror (t : Tape) : t.mirror.strip = t.strip.mirror := by
  rw [strip, cells_mirror, cursor_mirror]
  rfl

/-- A strip with its cursor inside is the window of a tape. -/
theorem Strip.exists_strip_eq {s : Strip} (h : s.cursor < s.cells.length) :
    ∃ t : Tape, t.strip = s := by
  refine ⟨⟨(s.cells.take s.cursor).reverse, s.cells[s.cursor], s.cells.drop (s.cursor + 1)⟩, ?_⟩
  have hlength : (s.cells.take s.cursor).length = s.cursor := List.length_take_of_le h.le
  rw [Tape.strip, Tape.cells, Tape.cursor, List.reverse_reverse, List.length_reverse, hlength,
    List.getElem_cons_drop, List.take_append_drop]

namespace TuringMachine

variable {A S : Type} {m : TuringMachine A S} {e e' : Execution} {word : List Nat}

/-! ## Machines -/

/-- The parts with the direction cells of the table negated. -/
def Draft.mirror (d : Draft A S) : Draft A S :=
  { d with transitions := d.transitions.mapColumns mirrorCell }

theorem Draft.WellFormed.mirror {d : Draft A S} (w : d.WellFormed) : d.mirror.WellFormed where
  blank_lt := w.blank_lt
  size_inputs := w.size_inputs
  inputs_blank := w.inputs_blank
  initial_lt := w.initial_lt
  rows_eq := w.rows_eq
  cols_eq := w.cols_eq
  next_mem state hs letter hl cell hcell := by
    rw [Draft.mirror, Table.get?_mapColumns, mirrorCell_next, Option.map_id] at hcell
    exact w.next_mem state hs letter hl cell hcell
  write_mem state hs letter hl cell hcell := by
    rw [Draft.mirror, Table.get?_mapColumns, mirrorCell_write, Option.map_id] at hcell
    exact w.write_mem state hs letter hl cell hcell
  direction_mem state hs letter hl cell hcell := by
    rw [Draft.mirror, Table.get?_mapColumns, mirrorCell_direction, Option.map_eq_some_iff] at hcell
    obtain ⟨cell, hcell, rfl⟩ := hcell
    rw [Direction.ofCode?_neg, Option.isSome_map]
    exact w.direction_mem state hs letter hl cell hcell

/-- The machine that moves the other way. -/
def mirror (m : TuringMachine A S) : TuringMachine A S :=
  ⟨m.toDraft.mirror, (Draft.fault?_eq_none_iff _).2 m.wellFormed.mirror⟩

theorem action?_mirror (m : TuringMachine A S) (state letter : Nat) :
    m.mirror.action? state letter = (m.action? state letter).map Action.mirror := by
  simp only [action?, mirror, Draft.mirror, Table.get?_mapColumns, mirrorCell_next,
    mirrorCell_write, mirrorCell_direction, Option.map_id, id, Option.bind_eq_bind, Option.bind_map,
    Option.map_bind, Function.comp_def, Direction.ofCode?_neg, Option.map_some, Action.mirror]

theorem ofDraft_toDraft (m : TuringMachine A S) : ofDraft m.toDraft = .ok m :=
  ofDraft_of_wellFormed m.wellFormed

/-- What makes a machine makes its mirror image, with the direction cells negated. -/
theorem build_mirror [DecidableEq A] [Quoted A] [DecidableEq S] [Quoted S] {letters : Source A}
    {blank : Nat} {inputs? : Option (Column Bool)} {states : Source S} {initial : Nat}
    {transitions : Table Int32}
    (h : build letters blank inputs? states initial transitions = .ok m) :
    build letters blank inputs? states initial (transitions.mapColumns mirrorCell) =
      .ok m.mirror := by
  rw [build_eq, mapError_eq_ok_iff] at h ⊢
  obtain ⟨alphabet, stateNames, halphabet, hstates, hparts⟩ :=
    exists_registries_of_assemble letters blank inputs? states initial transitions h
  refine bind_eq_ok_iff.2 ⟨alphabet, halphabet, bind_eq_ok_iff.2 ⟨stateNames, hstates, ?_⟩⟩
  have hmirror : m.mirror.toDraft = m.toDraft.mirror := rfl
  rw [← m.mirror.ofDraft_toDraft, hmirror, hparts]
  rfl

/-! ## Executions -/

/-- The execution seen from behind. -/
def Execution.mirror (e : Execution) : Execution := { e with tape := e.tape.mirror }

/-- The other execution shows the cells in the other order, with the cursor on the same cell, and is
otherwise the same. -/
structure Execution.Mirrors (e e' : Execution) : Prop where
  cells_eq : e'.tape.cells = e.tape.cells.reverse
  cursor_eq : e'.tape.cursor = e.tape.cells.length - 1 - e.tape.cursor
  status_eq : e'.status = e.status
  stepCount_eq : e'.stepCount = e.stepCount

theorem mirrors_iff : e.Mirrors e' ↔ e' = e.mirror := by
  constructor
  · intro h
    have htape : e'.tape = e.tape.mirror := by
      apply Tape.eq_of_cells_eq
      · rw [h.cells_eq, Tape.cells_mirror]
      · rw [h.cursor_eq, Tape.cursor_mirror]
    obtain ⟨tape', status', stepCount'⟩ := e'
    obtain rfl : tape' = e.tape.mirror := htape
    obtain rfl : status' = e.status := h.status_eq
    obtain rfl : stepCount' = e.stepCount := h.stepCount_eq
    rfl
  · rintro rfl
    exact ⟨e.tape.cells_mirror, e.tape.cursor_mirror, rfl, rfl⟩

theorem Execution.mirror_carryOut (blank : Nat) (e : Execution) (action : Action) :
    (e.carryOut blank action).mirror = e.mirror.carryOut blank action.mirror := by
  simp only [Execution.mirror, carryOut, Tape.mirror_move, Tape.mirror_write, Action.mirror]

theorem step_mirror (m : TuringMachine A S) (e : Execution) :
    m.mirror.step e.mirror = ((m.step e).1, (m.step e).2.mirror) := by
  cases hs : e.status with
  | halted halt =>
    have hs' : e.mirror.status = .halted halt := hs
    rw [step_of_halted hs, step_of_halted hs']
  | running state =>
    have hs' : e.mirror.status = .running state := hs
    have haction : m.mirror.action? state e.mirror.tape.head = _ :=
      m.action?_mirror state e.tape.head
    cases ha : m.action? state e.tape.head with
    | none =>
      rw [ha] at haction
      rw [step_of_action?_eq_none hs ha, step_of_action?_eq_none hs' haction]
    | some action =>
      rw [ha] at haction
      rw [step_of_running hs ha, step_of_running hs' haction, Execution.mirror_carryOut]
      rfl

theorem after_mirror (m : TuringMachine A S) (e : Execution) (n : Nat) :
    m.mirror.stepper.after n e.mirror = (m.stepper.after n e).mirror := by
  refine Stepper.after_map Execution.mirror ?_ n e
  intro e
  exact congrArg Prod.snd (m.step_mirror e)

/-- Steps on strips are mirrored as well. -/
theorem stripStep?_mirror (m : TuringMachine A S) {s : Strip} (h : s.cursor < s.cells.length)
    (status : Status) : m.mirror.stripStep? s.mirror status =
      (m.stripStep? s status).map (Prod.map Strip.mirror id) := by
  cases status with
  | halted halt => rfl
  | running state =>
    obtain ⟨t, rfl⟩ := Strip.exists_strip_eq h
    rw [← Tape.strip_mirror, stripStep?_strip, stripStep?_strip]
    change (m.mirror.action? state t.head).map _ = _
    rw [action?_mirror, Option.map_map, Option.map_map]
    congr 1
    funext action
    simp only [Function.comp_apply, Prod.map, ← Tape.strip_mirror, Tape.mirror_move,
      Tape.mirror_write]
    rfl

theorem exists_stripStep?_eq_some {s : Strip} {status : Status} (hs : s.cursor < s.cells.length)
    (hcells : ∀ letter ∈ s.cells, letter < m.alphabet.size)
    (hstatus : ∀ state, status = .running state → state < m.states.size) :
    ∃ s' status', m.stripStep? s status = some (s', status') := by
  obtain ⟨t, rfl⟩ := Strip.exists_strip_eq hs
  have hrange : Execution.InRange m ⟨t, status, 0⟩ := ⟨hstatus, hcells⟩
  exact ⟨_, _, hrange.stripStep?_eq⟩

/-- The blank tape and words of one letter are their own mirror images. -/
theorem StartsOn.mirror (h : m.StartsOn word e) (hword : word.length ≤ 1) :
    m.mirror.StartsOn word e ∧ e.mirror = e := by
  obtain ⟨hinput, rfl⟩ := startsOn_iff.1 h
  refine ⟨startsOn_iff.2 ⟨hinput, rfl⟩, ?_⟩
  have hright : word.tail = [] := by
    rw [List.eq_nil_iff_length_eq_zero, List.length_tail]
    omega
  simp only [Execution.mirror, startOn, Tape.ofWord, Tape.mirror, hright]

/-- What a machine is built from makes its mirror image when the direction cells are negated. A step
of the one on a strip with letters of the machine, the cursor inside and a state of the machine is
the mirror image of a step of the other; so are their steps on mirrored executions, which report the
same. From the blank tape and from every word of one letter the mirror image starts too, and after
every number of steps the two show mirrored cells, with the same status and the same number of
steps. -/
theorem runs_mirror [DecidableEq A] [Quoted A] [DecidableEq S] [Quoted S]
    (m : TuringMachine A S) :
    (∀ letters blank inputs? states initial transitions,
      build letters blank inputs? states initial transitions = .ok m →
      build letters blank inputs? states initial (transitions.mapColumns mirrorCell) =
        .ok m.mirror) ∧
    (∀ (s : Strip) (status : Status), s.cursor < s.cells.length →
      (∀ letter ∈ s.cells, letter < m.alphabet.size) →
      (∀ state, status = .running state → state < m.states.size) →
      ∃ s' status', m.stripStep? s status = some (s', status') ∧
        m.mirror.stripStep? s.mirror status = some (s'.mirror, status')) ∧
    (∀ e e' : Execution, e.Mirrors e' →
      (m.mirror.step e').1 = (m.step e).1 ∧ (m.step e).2.Mirrors (m.mirror.step e').2) ∧
    ∀ (word : List Nat) (e : Execution), word.length ≤ 1 → m.StartsOn word e →
      m.mirror.StartsOn word e ∧
        ∀ n, (m.stepper.after n e).Mirrors (m.mirror.stepper.after n e) := by
  refine ⟨fun _ _ _ _ _ _ => build_mirror, ?_, ?_, ?_⟩
  · intro s status hs hcells hstatus
    obtain ⟨s', status', hstep⟩ := exists_stripStep?_eq_some hs hcells hstatus
    refine ⟨s', status', hstep, ?_⟩
    rw [m.stripStep?_mirror hs, hstep]
    rfl
  · intro e e' h
    obtain rfl := mirrors_iff.1 h
    rw [step_mirror]
    exact ⟨rfl, mirrors_iff.2 rfl⟩
  · intro word e hword h
    obtain ⟨hstart, hself⟩ := h.mirror hword
    refine ⟨hstart, fun n => ?_⟩
    rw [mirrors_iff, ← after_mirror, hself]

/-- After the first step on one letter the nibbler stands on the blank right of it, and its mirror
image on the blank left of it. -/
theorem nibbler_runs_mirror :
    byId 0 (some (.ofList [false, true])) 0 (.ofVectors #v[#v[1, 0, 1, 0, 1, -1],
        #v[-2, 0, 0, 2, 0, 1], #v[3, 0, -1, 2, 1, 1], #v[-2, 0, 0, 0, 0, -1]]) =
      .ok nibbler.mirror ∧
    nibbler.stripStep? ⟨[1, 0], 1⟩ (.running 0) = some (⟨[1], 0⟩, .running 1) ∧
    nibbler.mirror.stripStep? ⟨[0, 1], 0⟩ (.running 0) = some (⟨[1], 0⟩, .running 1) ∧
    ∃ e, nibbler.mirror.StartsOn [1] e ∧ (nibbler.stepper.after 1 e).fullText = "1 [0]>0" ∧
      (nibbler.mirror.stepper.after 1 e).tape.cells = [0, 1] ∧
      (nibbler.mirror.stepper.after 1 e).tape.cursor = 0 := by
  obtain ⟨hbuild, hstrip, -, hrun⟩ := nibbler.runs_mirror
  have hnibbler : build .ids 0 (some (.ofList [false, true])) .ids 0 nibbler.transitions =
      .ok nibbler := by cbv
  have htable : nibbler.transitions.mapColumns mirrorCell = .ofVectors #v[#v[1, 0, 1, 0, 1, -1],
      #v[-2, 0, 0, 2, 0, 1], #v[3, 0, -1, 2, 1, 1], #v[-2, 0, 0, 0, 0, -1]] := by decide +kernel
  have hstart : nibbler.StartsOn [1] (nibbler.startOn (.ofWord 0 [1])) := .byId rfl
  obtain ⟨s, status, hstep, hmirrored⟩ :=
    hstrip ⟨[1, 0], 1⟩ (.running 0) (by decide) (by decide +kernel) (by rintro _ ⟨⟩; decide +kernel)
  have hvalue : nibbler.stripStep? ⟨[1, 0], 1⟩ (.running 0) = some (⟨[1], 0⟩, .running 1) := by
    decide +kernel
  obtain ⟨rfl, rfl⟩ := Prod.mk.inj (Option.some.inj (hstep.symm.trans hvalue))
  obtain ⟨hmirror, hafter⟩ := hrun [1] _ le_rfl hstart
  refine ⟨htable ▸ hbuild _ _ _ _ _ _ hnibbler, hvalue, hmirrored, _, hmirror, by decide +kernel,
    ?_, ?_⟩
  · rw [(hafter 1).cells_eq]
    decide +kernel
  · rw [(hafter 1).cursor_eq]
    decide +kernel

end TuringMachine

end TableMachines
