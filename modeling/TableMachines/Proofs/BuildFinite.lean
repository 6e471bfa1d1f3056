import TableMachines.FiniteMachine.Basic
import TableMachines.Proofs.Checklist
import TableMachines.Proofs.Names

/-!
# Building finite machines

What can be wrong with the parts of a finite machine, as a checklist: `Blueprint.Fails` says of each
check alone when it fails and with what error, and `Check.place` puts the checks in their order, the
cells of the table in row order. `build` succeeds exactly when the parts are well formed, and its
error is that of the first failing check otherwise (`finiteMachine_build_iff`).
-/

namespace TableMachines

open Checklist

namespace FiniteMachine

variable {A S : Type}

/-- The parts of a finite machine, with names of letters and states that may be repeated. -/
structure Blueprint (A S : Type) where
  letters : List A
  states : List S
  initial : Nat
  transitions : Table Nat
  finals : Column Bool

/-- The parts that a machine is built from. Letters that are ids are as many as the table has
columns, states as many as it has rows. -/
def blueprint (letters : Source A) (states : Source S) (initial : Nat) (transitions : Table Nat)
    (finals : Column Bool) : Blueprint A S where
  letters := letters.names transitions.cols
  states := states.names transitions.rows
  initial := initial
  transitions := transitions
  finals := finals

/-- What is looked at when a machine is built, one thing at a time. -/
inductive Check where
  | letters
  | states
  | initial
  | shape
  | finals
  | target (state letter : Nat)

/-- The order of the checks: the one with the smaller place comes first. -/
def Check.place : Check → List Nat
  | letters => [0]
  | states => [1]
  | initial => [2]
  | shape => [3]
  | finals => [4]
  | target state letter => [5, state, letter]

theorem Check.place_injective : Function.Injective Check.place := by
  intro c c' h
  cases c <;> cases c' <;> simp_all [place]

theorem Check.at_iff (check : Check) {k : Nat} (h : check.place = [k]) (c : Check) :
    At Check.place k c ↔ c = check := by
  cases check <;> cases h <;> cases c <;> simp [At, place]

theorem Check.place_le (c : Check) : c.place.headD 0 ≤ 5 := by
  cases c <;> simp [place]

namespace Blueprint

/-- The conditions under which a machine is built. Names are distinct, the sizes fit together, and
the initial state and every cell are states. -/
structure WellFormed (b : Blueprint A S) : Prop where
  nodup_letters : b.letters.Nodup
  nodup_states : b.states.Nodup
  initial_lt : b.initial < b.states.length
  rows_eq : b.transitions.rows = b.states.length
  cols_eq : b.transitions.cols = b.letters.length
  size_finals : b.finals.size = b.states.length
  target_lt : ∀ state < b.states.length, ∀ letter < b.letters.length,
    ∃ target, b.transitions.get? state letter = some target ∧ target < b.states.length

variable [Quoted A] [Quoted S]

/-- The checks that fail, each looked at alone, with their errors. -/
def Fails (b : Blueprint A S) : Check → BuildError → Prop
  | .letters, err => ∃ name, FirstRepeat b.letters name ∧ err = .duplicateLetter (quoted name)
  | .states, err => ∃ name, FirstRepeat b.states name ∧ err = .duplicateState (quoted name)
  | .initial, err => ¬ b.initial < b.states.length ∧
      err = .initialStateOutOfRange b.initial b.states.length
  | .shape, err =>
      ¬ (b.transitions.rows = b.states.length ∧ b.transitions.cols = b.letters.length) ∧
      err = .tableShape b.states.length b.letters.length b.transitions.rows b.transitions.cols
  | .finals, err => ¬ b.finals.size = b.states.length ∧
      err = .finalsLength b.states.length b.finals.size
  | .target state letter, err => state < b.states.length ∧ letter < b.letters.length ∧
      ∃ target, b.transitions.get? state letter = some target ∧ ¬ target < b.states.length ∧
        err = .targetOutOfRange state letter target b.states.length

variable {b : Blueprint A S}

theorem WellFormed.not_fails (w : b.WellFormed) (check : Check) (err : BuildError) :
    ¬ b.Fails check err := by
  intro h
  cases check with
  | letters =>
    obtain ⟨name, hname, -⟩ := h
    exact hname.not_nodup w.nodup_letters
  | states =>
    obtain ⟨name, hname, -⟩ := h
    exact hname.not_nodup w.nodup_states
  | initial => exact h.1 w.initial_lt
  | shape => exact h.1 ⟨w.rows_eq, w.cols_eq⟩
  | finals => exact h.1 w.size_finals
  | target state letter =>
    obtain ⟨hs, hl, target, htarget, hrefused, -⟩ := h
    obtain ⟨target', htarget', hlt⟩ := w.target_lt _ hs _ hl
    rw [Option.some.inj (htarget.symm.trans htarget')] at hrefused
    exact hrefused hlt

variable [DecidableEq A] [DecidableEq S]

theorem Fails.unique {check : Check} {err err' : BuildError} (h : b.Fails check err)
    (h' : b.Fails check err') : err = err' := by
  cases check with
  | letters | states =>
    obtain ⟨name, hname, rfl⟩ := h
    obtain ⟨name', hname', rfl⟩ := h'
    rw [hname.unique hname']
  | initial | shape | finals => exact h.2.trans h'.2.symm
  | target state letter =>
    obtain ⟨-, -, target, htarget, -, rfl⟩ := h
    obtain ⟨-, -, target', htarget', -, rfl⟩ := h'
    rw [Option.some.inj (htarget.symm.trans htarget')]

/-- Parts are well formed exactly when no check fails. -/
theorem wellFormed_iff : b.WellFormed ↔ ∀ check err, ¬ b.Fails check err := by
  refine ⟨WellFormed.not_fails, fun h => ?_⟩
  have hinitial := not_not.1 fun hlt => h .initial _ ⟨hlt, rfl⟩
  obtain ⟨hrows, hcols⟩ := not_not.1 fun hshape => h .shape _ ⟨hshape, rfl⟩
  have hfinals := not_not.1 fun hsize => h .finals _ ⟨hsize, rfl⟩
  refine ⟨?_, ?_, hinitial, hrows, hcols, hfinals, ?_⟩
  · exact nodup_of_forall_not_firstRepeat fun name hname => h .letters _ ⟨name, hname, rfl⟩
  · exact nodup_of_forall_not_firstRepeat fun name hname => h .states _ ⟨name, hname, rfl⟩
  · intro state hs letter hl
    have hcell := b.transitions.get?_of_lt (hrows ▸ hs) (hcols ▸ hl)
    refine ⟨_, hcell, ?_⟩
    by_contra hrefused
    exact h (.target state letter) _ ⟨hs, hl, _, hcell, hrefused, rfl⟩

end Blueprint

/-! ## The search for a fault -/

namespace Draft

/-- The parts of a draft, whose registries have been made already, as parts to build from. -/
def blueprint (d : Draft A S) : Blueprint A S where
  letters := d.alphabet.toList
  states := d.states.toList
  initial := d.initial
  transitions := d.transitions
  finals := d.finals

theorem targetFault?_eq_some_iff (d : Draft A S) (err : BuildError) (state letter : Nat) :
    d.targetFault? state letter = some err ↔
      ∃ target, d.transitions.get? state letter = some target ∧ ¬ target < d.states.size ∧
        err = .targetOutOfRange state letter target d.states.size := by
  cases hcell : d.transitions.get? state letter <;>
    simp [targetFault?, hcell, eq_comm (a := err)]

variable [Quoted A] [Quoted S] (d : Draft A S)

theorem targetFault?_eq_some_iff_fails {state letter : Nat} (hs : state < d.states.size)
    (hl : letter < d.alphabet.size) (err : BuildError) :
    d.targetFault? state letter = some err ↔ d.blueprint.Fails (.target state letter) err := by
  rw [targetFault?_eq_some_iff]
  exact ⟨fun h => ⟨hs, hl, h⟩, fun h => h.2.2⟩

theorem reports_targetsFault? :
    Reports Check.place d.blueprint.Fails (At Check.place 5) d.targetsFault? := by
  apply Reports.findSome?_places (s := fun state letter check => check = .target state letter)
  · intro state hs letter hl
    exact .of_iff (d.targetFault?_eq_some_iff_fails hs hl)
  · rintro state letter _ rfl
    exact ⟨[], rfl⟩
  · intro check err hat hfails
    cases check with
    | target state letter => exact ⟨state, hfails.1, letter, hfails.2.1, rfl⟩
    | _ => cases hat

/-- The search for a fault looks at all checks but those of the names, in their order. -/
theorem reports_fault? :
    Reports Check.place d.blueprint.Fails (From Check.place 2) d.fault? := by
  have hinitial : Reports Check.place d.blueprint.Fails (At Check.place 2) d.initialFault? :=
    .of_refusal (fun _ => Iff.rfl) (Check.at_iff .initial rfl)
  have hshape : Reports Check.place d.blueprint.Fails (At Check.place 3) d.shapeFault? :=
    .of_refusal (fun _ => Iff.rfl) (Check.at_iff .shape rfl)
  have hfinals : Reports Check.place d.blueprint.Fails (At Check.place 4) d.finalsFault? :=
    .of_refusal (fun _ => Iff.rfl) (Check.at_iff .finals rfl)
  have htargets := d.reports_targetsFault?.of_last_stage Check.place_le
  exact hinitial.or_stage (hshape.or_stage (hfinals.or_stage htargets))

end Draft

/-! ## Building -/

theorem errorOf?_ofDraft (d : Draft A S) : errorOf? (ofDraft d) = d.fault? := by
  unfold ofDraft
  split
  · rename_i fault hfault
    rw [hfault, errorOf?]
  · rename_i hnone
    exact hnone.symm

theorem toDraft_of_ofDraft_eq_ok {d : Draft A S} {m : FiniteMachine A S} (h : ofDraft d = .ok m) :
    m.toDraft = d := by
  unfold ofDraft at h
  split at h
  · cases h
  · cases h
    rfl

theorem exists_ofDraft_eq_ok_iff (d : Draft A S) : (∃ m, ofDraft d = .ok m) ↔ d.WellFormed := by
  rw [← errorOf?_eq_none_iff, errorOf?_ofDraft, d.fault?_eq_none_iff]

variable [DecidableEq A] [Quoted A] [DecidableEq S] [Quoted S]

/-- The parts put together before a failure is told to be one of construction. -/
def assemble (letters : Source A) (states : Source S) (initial : Nat) (transitions : Table Nat)
    (finals : Column Bool) : Except BuildError (FiniteMachine A S) := do
  let alphabet ← letters.registry transitions.cols .letter
  let states ← states.registry transitions.rows .state
  ofDraft { alphabet, states, initial, transitions, finals }

theorem build_eq (letters : Source A) (states : Source S) (initial : Nat) (transitions : Table Nat)
    (finals : Column Bool) :
    build letters states initial transitions finals =
      (assemble letters states initial transitions finals).mapError .construction := rfl

section

variable (letters : Source A) (states : Source S) (initial : Nat) (transitions : Table Nat)
  (finals : Column Bool)

theorem blueprint_of_registries {alphabet : Registry A} {stateNames : Registry S}
    (halphabet : letters.registry transitions.cols .letter = .ok alphabet)
    (hstates : states.registry transitions.rows .state = .ok stateNames) :
    blueprint letters states initial transitions finals =
      Draft.blueprint ⟨alphabet, stateNames, initial, transitions, finals⟩ := by
  rw [blueprint, Draft.blueprint, ← Source.toList_of_registry_eq_ok halphabet,
    ← Source.toList_of_registry_eq_ok hstates]

theorem exists_registries_of_assemble {m : FiniteMachine A S}
    (h : assemble letters states initial transitions finals = .ok m) :
    ∃ alphabet stateNames, letters.registry transitions.cols .letter = .ok alphabet ∧
      states.registry transitions.rows .state = .ok stateNames ∧
      m.toDraft = ⟨alphabet, stateNames, initial, transitions, finals⟩ := by
  obtain ⟨alphabet, halphabet, h⟩ := bind_eq_ok_iff.1 h
  obtain ⟨stateNames, hstates, h⟩ := bind_eq_ok_iff.1 h
  exact ⟨alphabet, stateNames, halphabet, hstates, toDraft_of_ofDraft_eq_ok h⟩

theorem parts_of_build {m : FiniteMachine A S}
    (h : build letters states initial transitions finals = .ok m) :
    m.alphabet.toList = letters.names transitions.cols ∧ m.initial = initial ∧
      m.transitions = transitions ∧ m.finals = finals := by
  rw [build_eq, mapError_eq_ok_iff] at h
  obtain ⟨alphabet, stateNames, halphabet, -, hparts⟩ :=
    exists_registries_of_assemble letters states initial transitions finals h
  rw [hparts]
  exact ⟨Source.toList_of_registry_eq_ok halphabet, rfl, rfl, rfl⟩

theorem reports_assemble :
    Reports Check.place (blueprint letters states initial transitions finals).Fails
      (From Check.place 0) (errorOf? (assemble letters states initial transitions finals)) := by
  apply Reports.bind_stage
  · exact letters.reports_registry (fun _ => Iff.rfl) (Check.at_iff .letters rfl)
  · intro alphabet halphabet
    apply Reports.bind_stage
    · exact states.reports_registry (fun _ => Iff.rfl) (Check.at_iff .states rfl)
    · intro stateNames hstates
      rw [errorOf?_ofDraft, blueprint_of_registries _ _ _ _ _ halphabet hstates]
      exact Draft.reports_fault? _

theorem assemble_eq_error_iff (err : BuildError) :
    assemble letters states initial transitions finals = .error err ↔
      FirstFailure Check.place (blueprint letters states initial transitions finals).Fails err := by
  rw [← errorOf?_eq_some_iff]
  exact (reports_assemble letters states initial transitions finals).eq_some_iff
    Check.place_injective (fun _ _ _ => Blueprint.Fails.unique) err

theorem exists_assemble_eq_ok_iff :
    (∃ m, assemble letters states initial transitions finals = .ok m) ↔
      (blueprint letters states initial transitions finals).WellFormed := by
  rw [← errorOf?_eq_none_iff, Blueprint.wellFormed_iff]
  exact (reports_assemble letters states initial transitions finals).eq_none_iff

/-- Parts make a machine exactly when they are well formed, and the machine has these parts, with as
many letters as its table has columns and as many states as its table has rows and as there are
final flags. Otherwise the error is that of the first check that fails. -/
theorem finiteMachine_build_iff :
    ((∃ m, build letters states initial transitions finals = .ok m) ↔
      (blueprint letters states initial transitions finals).WellFormed) ∧
    (∀ m, build letters states initial transitions finals = .ok m →
      m.toDraft.blueprint = blueprint letters states initial transitions finals ∧
      m.alphabet.size = m.transitions.cols ∧ m.states.size = m.transitions.rows ∧
      m.states.size = m.finals.size) ∧
    ∀ err, build letters states initial transitions finals = .error err ↔
      ∃ fault, FirstFailure Check.place
        (blueprint letters states initial transitions finals).Fails fault ∧
        err = .construction fault := by
  simp only [build_eq, mapError_eq_ok_iff, mapError_eq_error_iff, assemble_eq_error_iff,
    exists_assemble_eq_ok_iff, implies_true, and_true, true_and]
  intro m h
  obtain ⟨alphabet, stateNames, halphabet, hstates, hparts⟩ :=
    exists_registries_of_assemble letters states initial transitions finals h
  refine ⟨?_, m.wellFormed.cols_eq.symm, m.wellFormed.rows_eq.symm, m.wellFormed.size_finals.symm⟩
  rw [hparts, blueprint_of_registries _ _ _ _ _ halphabet hstates]

end

/-- The letter that occurs twice is reported before the initial state out of range, the table of
another shape and the final flag too many. -/
theorem finiteMachine_build_iff_repeated :
    build (.listed [4, 7, 4]) .ids 7 (.ofVectors #v[#v[0, 5], #v[1, 1]])
        (.ofList [true, false, true]) = .error (.construction (.duplicateLetter "4")) ∧
      FirstFailure Check.place (blueprint (.listed [4, 7, 4]) .ids 7
        (.ofVectors #v[#v[0, 5], #v[1, 1]]) (.ofList [true, false, true])).Fails
        (.duplicateLetter "4") := by
  have herror : build (.listed [4, 7, 4]) .ids 7 (.ofVectors #v[#v[0, 5], #v[1, 1]])
      (.ofList [true, false, true]) = .error (.construction (.duplicateLetter "4")) := rfl
  obtain ⟨fault, hfirst, hfault⟩ := ((finiteMachine_build_iff (.listed [4, 7, 4]) .ids 7
    (.ofVectors #v[#v[0, 5], #v[1, 1]]) (.ofList [true, false, true])).2.2 _).1 herror
  cases hfault
  exact ⟨herror, hfirst⟩

end FiniteMachine

end TableMachines
