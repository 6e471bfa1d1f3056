import TableMachines.Proofs.Checklist
import TableMachines.Proofs.Names
import TableMachines.TuringMachine.Basic

/-!
# Building Turing machines

What can be wrong with the parts of a Turing machine, as a checklist: `Blueprint.Fails` says of each
check alone when it fails and with what error, and `Check.place` puts the checks in their order. The
cells come last, state by state and letter by letter, and under one letter the next state comes
before the letter to write and that before the direction. `build` succeeds exactly when the parts
are well formed, and its error is that of the first failing check otherwise
(`turingMachine_build_iff`).
-/

namespace TableMachines

open Checklist

/-- The codes of directions are `-1`, `0` and `1`. -/
theorem Direction.isSome_ofCode?_iff (code : Int32) :
    (ofCode? code).isSome ↔ code.toInt = -1 ∨ code.toInt = 0 ∨ code.toInt = 1 := by
  have hleft : code.toInt = -1 ↔ code = -1 := Int32.toInt_inj (y := -1)
  have hstay : code.toInt = 0 ↔ code = 0 := Int32.toInt_inj (y := 0)
  have hright : code.toInt = 1 ↔ code = 1 := Int32.toInt_inj (y := 1)
  rw [hleft, hstay, hright, ofCode?]
  split_ifs <;> simp_all

namespace TuringMachine

variable {A S : Type}

/-- The parts of a Turing machine, with names of letters and states that may be repeated. -/
structure Blueprint (A S : Type) where
  letters : List A
  blank : Nat
  inputs : Column Bool
  states : List S
  initial : Nat
  transitions : Table Int32

/-- The parts that a machine is built from. Letters that are ids are a third as many as the table
has columns, states as many as it has rows; without input flags every letter but the blank is for
input. -/
def blueprint (letters : Source A) (blank : Nat) (inputs? : Option (Column Bool))
    (states : Source S) (initial : Nat) (transitions : Table Int32) : Blueprint A S where
  letters := letters.names (transitions.cols / 3)
  blank := blank
  inputs := inputs?.getD (defaultInputs (letters.names (transitions.cols / 3)).length blank)
  states := states.names transitions.rows
  initial := initial
  transitions := transitions

/-- What the three cells of a state and a letter hold. -/
inductive CellKind where
  | next
  | write
  | direction

/-- The place of a cell among the three of its letter. -/
def CellKind.offset : CellKind → Nat
  | next => 0
  | write => 1
  | direction => 2

/-- What is looked at when a machine is built, one thing at a time. -/
inductive Check where
  | letters
  | states
  | someLetter
  | blank
  | inputsLength
  | blankInput
  | someState
  | initial
  | shape
  | cell (state letter : Nat) (kind : CellKind)

/-- The order of the checks: the one with the smaller place comes first. -/
def Check.place : Check → List Nat
  | letters => [0]
  | states => [1]
  | someLetter => [2]
  | blank => [3]
  | inputsLength => [4]
  | blankInput => [5]
  | someState => [6]
  | initial => [7]
  | shape => [8]
  | cell state letter kind => [9, state, letter, kind.offset]

theorem CellKind.offset_injective : Function.Injective offset := by
  intro k k' h
  cases k <;> cases k' <;> simp_all [offset]

theorem Check.place_injective : Function.Injective Check.place := by
  intro c c' h
  cases c <;> cases c' <;> simp_all [place, CellKind.offset_injective.eq_iff]

theorem Check.at_iff (check : Check) {k : Nat} (h : check.place = [k]) (c : Check) :
    At Check.place k c ↔ c = check := by
  cases check <;> cases h <;> cases c <;> simp [At, place]

theorem Check.place_le (c : Check) : c.place.headD 0 ≤ 9 := by
  cases c <;> simp [place]

/-- The cells of one letter come in the order of their columns. -/
theorem Check.place_cell_lt {state letter : Nat} {kind kind' : CellKind}
    (h : kind.offset < kind'.offset) :
    place (cell state letter kind) < place (cell state letter kind') := by
  simpa [place, List.cons_lt_cons_iff] using h

namespace Blueprint

/-- The numbers that a cell may hold: a state or a halt code, a letter, a direction code. -/
def Allows (b : Blueprint A S) : CellKind → Int32 → Prop
  | .next, cell => -2 ≤ cell.toInt ∧ cell.toInt < b.states.length
  | .write, cell => 0 ≤ cell.toInt ∧ cell.toInt < b.letters.length
  | .direction, cell => cell.toInt = -1 ∨ cell.toInt = 0 ∨ cell.toInt = 1

/-- The conditions under which a machine is built. Names are distinct, there are letters and states,
the sizes fit together, the blank is a letter and not for input, and every cell holds a number of
its kind. -/
structure WellFormed (b : Blueprint A S) : Prop where
  nodup_letters : b.letters.Nodup
  nodup_states : b.states.Nodup
  one_le_letters : 1 ≤ b.letters.length
  blank_lt : b.blank < b.letters.length
  size_inputs : b.inputs.size = b.letters.length
  inputs_blank : b.inputs.get? b.blank = some false
  one_le_states : 1 ≤ b.states.length
  initial_lt : b.initial < b.states.length
  rows_eq : b.transitions.rows = b.states.length
  cols_eq : b.transitions.cols = 3 * b.letters.length
  cell_allowed : ∀ state < b.states.length, ∀ letter < b.letters.length, ∀ kind,
    ∃ cell, b.transitions.get? state (3 * letter + kind.offset) = some cell ∧ b.Allows kind cell

/-- The report on a cell that holds none of its numbers. -/
def cellError (b : Blueprint A S) (state letter : Nat) (cell : Int32) : CellKind → BuildError
  | .next => .nextOutOfRange state letter cell b.states.length
  | .write => .writeOutOfRange state letter cell b.letters.length
  | .direction => .directionOutOfRange state letter cell

variable [Quoted A] [Quoted S]

/-- The checks that fail, each looked at alone, with their errors. -/
def Fails (b : Blueprint A S) : Check → BuildError → Prop
  | .letters, err => ∃ name, FirstRepeat b.letters name ∧ err = .duplicateLetter (quoted name)
  | .states, err => ∃ name, FirstRepeat b.states name ∧ err = .duplicateState (quoted name)
  | .someLetter, err => ¬ 1 ≤ b.letters.length ∧ err = .emptyTapeAlphabet
  | .blank, err => ¬ b.blank < b.letters.length ∧
      err = .blankOutOfRange b.blank b.letters.length
  | .inputsLength, err => ¬ b.inputs.size = b.letters.length ∧
      err = .inputsLength b.letters.length b.inputs.size
  | .blankInput, err => b.inputs.get? b.blank = some true ∧ err = .blankInInputs
  | .someState, err => ¬ 1 ≤ b.states.length ∧ err = .noStates
  | .initial, err => ¬ b.initial < b.states.length ∧
      err = .initialStateOutOfRange b.initial b.states.length
  | .shape, err =>
      ¬ (b.transitions.rows = b.states.length ∧ b.transitions.cols = 3 * b.letters.length) ∧
      err = .tableShape b.states.length (3 * b.letters.length) b.transitions.rows
        b.transitions.cols
  | .cell state letter kind, err => state < b.states.length ∧ letter < b.letters.length ∧
      ∃ cell, b.transitions.get? state (3 * letter + kind.offset) = some cell ∧
        ¬ b.Allows kind cell ∧ err = b.cellError state letter cell kind

variable {b : Blueprint A S}

theorem WellFormed.not_fails (w : b.WellFormed) (check : Check) (err : BuildError) :
    ¬ b.Fails check err := by
  intro h
  cases check with
  | letters =>
    obtain ⟨name, hname, -⟩ := h
    exact hname.not_nodup w.nodup_letters
  | states =>
    obtain ⟨name, hname, -⟩ := h
    exact hname.not_nodup w.nodup_states
  | someLetter => exact h.1 w.one_le_letters
  | blank => exact h.1 w.blank_lt
  | inputsLength => exact h.1 w.size_inputs
  | blankInput => cases w.inputs_blank.symm.trans h.1
  | someState => exact h.1 w.one_le_states
  | initial => exact h.1 w.initial_lt
  | shape => exact h.1 ⟨w.rows_eq, w.cols_eq⟩
  | cell state letter kind =>
    obtain ⟨hs, hl, cell, hcell, hrefused, -⟩ := h
    obtain ⟨cell', hcell', hallowed⟩ := w.cell_allowed _ hs _ hl kind
    rw [Option.some.inj (hcell.symm.trans hcell')] at hrefused
    exact hrefused hallowed

variable [DecidableEq A] [DecidableEq S]

theorem Fails.unique {check : Check} {err err' : BuildError} (h : b.Fails check err)
    (h' : b.Fails check err') : err = err' := by
  cases check with
  | letters | states =>
    obtain ⟨name, hname, rfl⟩ := h
    obtain ⟨name', hname', rfl⟩ := h'
    rw [hname.unique hname']
  | cell state letter kind =>
    obtain ⟨-, -, cell, hcell, -, rfl⟩ := h
    obtain ⟨-, -, cell', hcell', -, rfl⟩ := h'
    rw [Option.some.inj (hcell.symm.trans hcell')]
  | _ => exact h.2.trans h'.2.symm

/-- Parts are well formed exactly when no check fails. -/
theorem wellFormed_iff : b.WellFormed ↔ ∀ check err, ¬ b.Fails check err := by
  refine ⟨WellFormed.not_fails, fun h => ?_⟩
  have hletters := not_not.1 fun hnone => h .someLetter _ ⟨hnone, rfl⟩
  have hblank := not_not.1 fun hlt => h .blank _ ⟨hlt, rfl⟩
  have hinputs := not_not.1 fun hsize => h .inputsLength _ ⟨hsize, rfl⟩
  have hstates := not_not.1 fun hnone => h .someState _ ⟨hnone, rfl⟩
  have hinitial := not_not.1 fun hlt => h .initial _ ⟨hlt, rfl⟩
  obtain ⟨hrows, hcols⟩ := not_not.1 fun hshape => h .shape _ ⟨hshape, rfl⟩
  refine ⟨?_, ?_, hletters, hblank, hinputs, ?_, hstates, hinitial, hrows, hcols, ?_⟩
  · exact nodup_of_forall_not_firstRepeat fun name hname => h .letters _ ⟨name, hname, rfl⟩
  · exact nodup_of_forall_not_firstRepeat fun name hname => h .states _ ⟨name, hname, rfl⟩
  · cases hflag : b.inputs.get? b.blank with
    | none => exact absurd ((b.inputs.get?_eq_none_iff _).1 hflag) (by omega)
    | some flag =>
      cases flag with
      | false => rfl
      | true => exact absurd ⟨hflag, rfl⟩ (h .blankInput _)
  · intro state hs letter hl kind
    have hcol : 3 * letter + kind.offset < b.transitions.cols := by
      cases kind <;> simp only [CellKind.offset] <;> omega
    have hcell := b.transitions.get?_of_lt (hrows ▸ hs) hcol
    refine ⟨_, hcell, ?_⟩
    by_contra hrefused
    exact h (.cell state letter kind) _ ⟨hs, hl, _, hcell, hrefused, rfl⟩

end Blueprint

/-! ## The search for a fault -/

namespace Draft

/-- The parts of a draft, whose registries have been made already, as parts to build from. -/
def blueprint (d : Draft A S) : Blueprint A S where
  letters := d.alphabet.toList
  blank := d.blank
  inputs := d.inputs
  states := d.states.toList
  initial := d.initial
  transitions := d.transitions

/-- The search at one of the cells of a state and a letter. -/
def kindFault? (d : Draft A S) (state letter : Nat) : CellKind → Option BuildError
  | .next => d.nextFault? state letter
  | .write => d.writeFault? state letter
  | .direction => d.directionFault? state letter

variable (d : Draft A S) (err : BuildError)

theorem blankFault?_eq :
    d.blankFault? = (refusal (1 ≤ d.alphabet.size) .emptyTapeAlphabet).or
      (refusal (d.blank < d.alphabet.size) (.blankOutOfRange d.blank d.alphabet.size)) := by
  unfold blankFault? refusal
  by_cases hnone : d.alphabet.size = 0
  · rw [if_pos hnone, if_neg (by omega)]
    rfl
  · rw [if_neg hnone, if_pos (Nat.one_le_iff_ne_zero.2 hnone)]
    rfl

theorem inputsFault?_eq :
    d.inputsFault? = (refusal (d.inputs.size = d.alphabet.size)
        (.inputsLength d.alphabet.size d.inputs.size)).or
      (refusal (¬ d.inputs.get? d.blank = some true) .blankInInputs) := by
  unfold inputsFault? refusal
  by_cases hsize : d.inputs.size = d.alphabet.size
  · rw [if_neg (not_not.2 hsize), if_pos hsize, ite_not]
    rfl
  · rw [if_pos hsize, if_neg hsize]
    rfl

theorem initialFault?_eq :
    d.initialFault? = (refusal (1 ≤ d.states.size) .noStates).or
      (refusal (d.initial < d.states.size)
        (.initialStateOutOfRange d.initial d.states.size)) := by
  unfold initialFault? refusal
  by_cases hnone : d.states.size = 0
  · rw [if_pos hnone, if_neg (by omega)]
    rfl
  · rw [if_neg hnone, if_pos (Nat.one_le_iff_ne_zero.2 hnone)]
    rfl

theorem nextFault?_eq_some_iff (state letter : Nat) :
    d.nextFault? state letter = some err ↔
      ∃ cell, d.transitions.get? state (3 * letter) = some cell ∧
        ¬ (-2 ≤ cell.toInt ∧ cell.toInt < d.states.size) ∧
        err = .nextOutOfRange state letter cell d.states.size := by
  cases hcell : d.transitions.get? state (3 * letter) <;>
    simp [nextFault?, hcell, eq_comm (a := err)]

theorem writeFault?_eq_some_iff (state letter : Nat) :
    d.writeFault? state letter = some err ↔
      ∃ cell, d.transitions.get? state (3 * letter + 1) = some cell ∧
        ¬ (0 ≤ cell.toInt ∧ cell.toInt < d.alphabet.size) ∧
        err = .writeOutOfRange state letter cell d.alphabet.size := by
  cases hcell : d.transitions.get? state (3 * letter + 1) <;>
    simp [writeFault?, hcell, eq_comm (a := err)]

theorem directionFault?_eq_some_iff (state letter : Nat) :
    d.directionFault? state letter = some err ↔
      ∃ cell, d.transitions.get? state (3 * letter + 2) = some cell ∧
        ¬ (Direction.ofCode? cell).isSome ∧ err = .directionOutOfRange state letter cell := by
  cases hcell : d.transitions.get? state (3 * letter + 2) <;>
    simp [directionFault?, hcell, eq_comm (a := err)]

variable [Quoted A] [Quoted S]

theorem kindFault?_eq_some_iff {state letter : Nat} (hs : state < d.states.size)
    (hl : letter < d.alphabet.size) (kind : CellKind) :
    d.kindFault? state letter kind = some err ↔
      d.blueprint.Fails (.cell state letter kind) err := by
  refine Iff.trans ?_ ⟨fun h => ⟨hs, hl, h⟩, fun h => h.2.2⟩
  cases kind with
  | next => exact d.nextFault?_eq_some_iff err state letter
  | write => exact d.writeFault?_eq_some_iff err state letter
  | direction =>
    simp only [Blueprint.Allows, ← Direction.isSome_ofCode?_iff]
    exact d.directionFault?_eq_some_iff err state letter

theorem reports_cellFault? {state letter : Nat} (hs : state < d.states.size)
    (hl : letter < d.alphabet.size) :
    Reports Check.place d.blueprint.Fails (fun check => ∃ kind, check = .cell state letter kind)
      (d.cellFault? state letter) := by
  have hkind (kind : CellKind) :
      Reports Check.place d.blueprint.Fails (· = .cell state letter kind)
        (d.kindFault? state letter kind) :=
    .of_iff fun err => d.kindFault?_eq_some_iff err hs hl kind
  have hwrite := (hkind .write).or (hkind .direction) fun i j hi hj => by
    rw [hi, hj]
    exact Check.place_cell_lt (by decide)
  have hnext := (hkind .next).or hwrite fun i j hi hj => by
    rcases hj with hj | hj <;> rw [hi, hj] <;> exact Check.place_cell_lt (by decide)
  refine hnext.of_subset ?_ ?_
  · rintro check (hcheck | hcheck | hcheck)
    · exact ⟨_, hcheck⟩
    · exact ⟨_, hcheck⟩
    · exact ⟨_, hcheck⟩
  · rintro check err ⟨kind, rfl⟩ -
    cases kind <;> simp

theorem reports_cellsFault? :
    Reports Check.place d.blueprint.Fails (At Check.place 9) d.cellsFault? := by
  apply Reports.findSome?_places
    (s := fun state letter check => ∃ kind, check = .cell state letter kind)
  · intro state hs letter hl
    exact d.reports_cellFault? hs hl
  · rintro state letter _ ⟨kind, rfl⟩
    exact ⟨[kind.offset], rfl⟩
  · intro check err hat hfails
    cases check with
    | cell state letter kind => exact ⟨state, hfails.1, letter, hfails.2.1, kind, rfl⟩
    | _ => cases hat

/-- The search for a fault looks at all checks but those of the names, in their order. -/
theorem reports_fault? :
    Reports Check.place d.blueprint.Fails (From Check.place 2) d.fault? := by
  have hcells := d.reports_cellsFault?.of_last_stage Check.place_le
  have hshape : Reports Check.place d.blueprint.Fails (At Check.place 8) d.shapeFault? :=
    .of_refusal (fun _ => Iff.rfl) (Check.at_iff .shape rfl)
  -- The searches for the blank, the input flags and the initial state look at two checks each.
  rw [fault?, blankFault?_eq, inputsFault?_eq, initialFault?_eq]
  simp only [Option.or_assoc]
  apply Reports.or_stage (.of_refusal (fun _ => Iff.rfl) (Check.at_iff .someLetter rfl))
  apply Reports.or_stage (.of_refusal (fun _ => Iff.rfl) (Check.at_iff .blank rfl))
  apply Reports.or_stage (.of_refusal (fun _ => Iff.rfl) (Check.at_iff .inputsLength rfl))
  apply Reports.or_stage (.of_refusal (fun _ => and_congr_left' not_not.symm)
    (Check.at_iff .blankInput rfl))
  apply Reports.or_stage (.of_refusal (fun _ => Iff.rfl) (Check.at_iff .someState rfl))
  apply Reports.or_stage (.of_refusal (fun _ => Iff.rfl) (Check.at_iff .initial rfl))
  exact hshape.or_stage hcells

end Draft

/-! ## Building -/

theorem errorOf?_ofDraft (d : Draft A S) : errorOf? (ofDraft d) = d.fault? := by
  unfold ofDraft
  split
  · rename_i fault hfault
    rw [hfault, errorOf?]
  · rename_i hnone
    exact hnone.symm

theorem toDraft_of_ofDraft_eq_ok {d : Draft A S} {m : TuringMachine A S} (h : ofDraft d = .ok m) :
    m.toDraft = d := by
  unfold ofDraft at h
  split at h
  · cases h
  · cases h
    rfl

variable [DecidableEq A] [Quoted A] [DecidableEq S] [Quoted S]

/-- The parts put together before a failure is told to be one of construction. -/
def assemble (letters : Source A) (blank : Nat) (inputs? : Option (Column Bool))
    (states : Source S) (initial : Nat) (transitions : Table Int32) :
    Except BuildError (TuringMachine A S) := do
  let alphabet ← letters.registry (transitions.cols / 3) .letter
  let states ← states.registry transitions.rows .state
  let inputs := inputs?.getD (defaultInputs alphabet.size blank)
  ofDraft { alphabet, blank, inputs, states, initial, transitions }

theorem build_eq (letters : Source A) (blank : Nat) (inputs? : Option (Column Bool))
    (states : Source S) (initial : Nat) (transitions : Table Int32) :
    build letters blank inputs? states initial transitions =
      (assemble letters blank inputs? states initial transitions).mapError .construction := rfl

section

variable (letters : Source A) (blank : Nat) (inputs? : Option (Column Bool)) (states : Source S)
  (initial : Nat) (transitions : Table Int32)

theorem blueprint_of_registries {alphabet : Registry A} {stateNames : Registry S}
    (halphabet : letters.registry (transitions.cols / 3) .letter = .ok alphabet)
    (hstates : states.registry transitions.rows .state = .ok stateNames) :
    blueprint letters blank inputs? states initial transitions =
      Draft.blueprint ⟨alphabet, blank, inputs?.getD (defaultInputs alphabet.size blank),
        stateNames, initial, transitions⟩ := by
  rw [blueprint, Draft.blueprint, ← Source.toList_of_registry_eq_ok halphabet,
    ← Source.toList_of_registry_eq_ok hstates, Registry.length_toList]

theorem exists_registries_of_assemble {m : TuringMachine A S}
    (h : assemble letters blank inputs? states initial transitions = .ok m) :
    ∃ alphabet stateNames, letters.registry (transitions.cols / 3) .letter = .ok alphabet ∧
      states.registry transitions.rows .state = .ok stateNames ∧
      m.toDraft = ⟨alphabet, blank, inputs?.getD (defaultInputs alphabet.size blank), stateNames,
        initial, transitions⟩ := by
  obtain ⟨alphabet, halphabet, h⟩ := bind_eq_ok_iff.1 h
  obtain ⟨stateNames, hstates, h⟩ := bind_eq_ok_iff.1 h
  exact ⟨alphabet, stateNames, halphabet, hstates, toDraft_of_ofDraft_eq_ok h⟩

theorem parts_of_build {m : TuringMachine A S}
    (h : build letters blank inputs? states initial transitions = .ok m) :
    m.blank = blank ∧ m.inputs = inputs?.getD (defaultInputs m.alphabet.size blank) ∧
      m.initial = initial ∧ m.transitions = transitions := by
  rw [build_eq, mapError_eq_ok_iff] at h
  obtain ⟨alphabet, stateNames, -, -, hparts⟩ :=
    exists_registries_of_assemble letters blank inputs? states initial transitions h
  rw [hparts]
  exact ⟨rfl, rfl, rfl, rfl⟩

theorem reports_assemble :
    Reports Check.place (blueprint letters blank inputs? states initial transitions).Fails
      (From Check.place 0)
      (errorOf? (assemble letters blank inputs? states initial transitions)) := by
  apply Reports.bind_stage
  · exact letters.reports_registry (fun _ => Iff.rfl) (Check.at_iff .letters rfl)
  · intro alphabet halphabet
    apply Reports.bind_stage
    · exact states.reports_registry (fun _ => Iff.rfl) (Check.at_iff .states rfl)
    · intro stateNames hstates
      rw [errorOf?_ofDraft, blueprint_of_registries _ _ _ _ _ _ halphabet hstates]
      exact Draft.reports_fault? _

theorem assemble_eq_error_iff (err : BuildError) :
    assemble letters blank inputs? states initial transitions = .error err ↔
      FirstFailure Check.place
        (blueprint letters blank inputs? states initial transitions).Fails err := by
  rw [← errorOf?_eq_some_iff]
  exact (reports_assemble letters blank inputs? states initial transitions).eq_some_iff
    Check.place_injective (fun _ _ _ => Blueprint.Fails.unique) err

theorem exists_assemble_eq_ok_iff :
    (∃ m, assemble letters blank inputs? states initial transitions = .ok m) ↔
      (blueprint letters blank inputs? states initial transitions).WellFormed := by
  rw [← errorOf?_eq_none_iff, Blueprint.wellFormed_iff]
  exact (reports_assemble letters blank inputs? states initial transitions).eq_none_iff

/-- Parts make a machine exactly when they are well formed, and the machine has these parts.
Otherwise the error is that of the first check that fails. -/
theorem turingMachine_build_iff :
    ((∃ m, build letters blank inputs? states initial transitions = .ok m) ↔
      (blueprint letters blank inputs? states initial transitions).WellFormed) ∧
    (∀ m, build letters blank inputs? states initial transitions = .ok m →
      m.toDraft.blueprint = blueprint letters blank inputs? states initial transitions) ∧
    ∀ err, build letters blank inputs? states initial transitions = .error err ↔
      ∃ fault, FirstFailure Check.place
        (blueprint letters blank inputs? states initial transitions).Fails fault ∧
        err = .construction fault := by
  simp only [build_eq, mapError_eq_ok_iff, mapError_eq_error_iff, assemble_eq_error_iff,
    exists_assemble_eq_ok_iff, implies_true, and_true, true_and]
  intro m h
  obtain ⟨alphabet, stateNames, halphabet, hstates, hparts⟩ :=
    exists_registries_of_assemble letters blank inputs? states initial transitions h
  rw [hparts, blueprint_of_registries _ _ _ _ _ _ halphabet hstates]

end

/-- In the second state the second letter has a letter to write and a direction out of range, and
the first letter of the third state a next state; the letter to write is reported. -/
theorem turingMachine_build_iff_write :
    build .ids 0 none .ids 0 (.ofVectors #v[#v[1, 1, 1, 2, 1, -1], #v[0, 1, -1, 1, 2, 5],
        #v[-3, 1, -1, -2, 1, 0]]) = .error (.construction (.writeOutOfRange 1 1 2 2)) ∧
      FirstFailure Check.place (blueprint .ids 0 none .ids 0 (.ofVectors #v[#v[1, 1, 1, 2, 1, -1],
        #v[0, 1, -1, 1, 2, 5], #v[-3, 1, -1, -2, 1, 0]])).Fails (.writeOutOfRange 1 1 2 2) := by
  have herror : build .ids 0 none .ids 0 (.ofVectors #v[#v[1, 1, 1, 2, 1, -1],
      #v[0, 1, -1, 1, 2, 5], #v[-3, 1, -1, -2, 1, 0]]) =
      .error (.construction (.writeOutOfRange 1 1 2 2)) := by cbv
  obtain ⟨fault, hfirst, hfault⟩ := ((turingMachine_build_iff .ids 0 none .ids 0
    (.ofVectors #v[#v[1, 1, 1, 2, 1, -1], #v[0, 1, -1, 1, 2, 5], #v[-3, 1, -1, -2, 1, 0]])).2.2
    _).1 herror
  cases hfault
  exact ⟨herror, hfirst⟩

end TuringMachine

end TableMachines
