import TableMachines.Proofs.Checklist
import TableMachines.Registry

/-!
# Names and their repetitions

A list of names is refused with the first name that stands in it a second time: the names before it
are distinct, and it is one of them (`FirstRepeat`, `repeated?_eq_some_iff`). A source of names, a
list or the ids themselves, has a registry unless a name is repeated, and the registry lists the
names of the source (`Source.registry_eq_error_iff`, `Source.toList_of_registry_eq_ok`).
-/

namespace TableMachines

open Checklist

variable {α : Type}

/-- The names before `value` are distinct, and `value` is one of them. -/
def FirstRepeat (values : List α) (value : α) : Prop :=
  ∃ before after, values = before ++ value :: after ∧ before.Nodup ∧ value ∈ before

theorem FirstRepeat.not_nodup {values : List α} {value : α} (h : FirstRepeat values value) :
    ¬ values.Nodup := by
  obtain ⟨before, after, rfl, -, hmem⟩ := h
  intro hnodup
  exact (List.nodup_append.1 hnodup).2.2 value hmem value List.mem_cons_self rfl

variable [DecidableEq α]

theorem repeatedAfter?_eq_some_iff (seen values : List α) (value : α) :
    repeatedAfter? seen values = some value ↔
      ∃ before after, values = before ++ value :: after ∧ before.Nodup ∧
        (∀ v ∈ before, v ∉ seen) ∧ (value ∈ before ∨ value ∈ seen) := by
  induction values generalizing seen with
  | nil => simp [repeatedAfter?]
  | cons first values ih =>
    by_cases hseen : first ∈ seen
    · rw [repeatedAfter?, if_pos hseen, Option.some.injEq]
      constructor
      · rintro rfl
        exact ⟨[], values, rfl, List.nodup_nil, by simp, Or.inr hseen⟩
      · rintro ⟨before, after, heq, -, hnew, -⟩
        cases before with
        | nil => exact (List.cons.inj heq).1
        | cons v before =>
          obtain ⟨rfl, -⟩ := List.cons.inj heq
          exact absurd hseen (hnew _ List.mem_cons_self)
    · rw [repeatedAfter?, if_neg hseen, ih]
      constructor
      · rintro ⟨before, after, rfl, hnodup, hnew, hmem⟩
        refine ⟨first :: before, after, rfl, ?_, ?_, ?_⟩
        · exact List.nodup_cons.2 ⟨fun h => hnew first h List.mem_cons_self, hnodup⟩
        · rw [List.forall_mem_cons]
          exact ⟨hseen, fun v hv h => hnew v hv (List.mem_cons_of_mem _ h)⟩
        · simpa [or_assoc, or_comm, or_left_comm] using hmem
      · rintro ⟨before, after, heq, hnodup, hnew, hmem⟩
        cases before with
        | nil =>
          obtain ⟨rfl, -⟩ := List.cons.inj heq
          simp [hseen] at hmem
        | cons v before =>
          obtain ⟨rfl, rfl⟩ := List.cons.inj heq
          obtain ⟨hnotMem, hnodup⟩ := List.nodup_cons.1 hnodup
          refine ⟨before, after, rfl, hnodup, ?_, ?_⟩
          · intro w hw h
            rcases List.mem_cons.1 h with rfl | h
            · exact hnotMem hw
            · exact hnew w (List.mem_cons_of_mem _ hw) h
          · simpa [or_assoc, or_comm, or_left_comm] using hmem

/-- The search for a repetition finds the first one. -/
theorem repeated?_eq_some_iff (values : List α) (value : α) :
    repeated? values = some value ↔ FirstRepeat values value := by
  simp [repeated?, repeatedAfter?_eq_some_iff, FirstRepeat]

theorem FirstRepeat.unique {values : List α} {value value' : α} (h : FirstRepeat values value)
    (h' : FirstRepeat values value') : value = value' := by
  rw [← repeated?_eq_some_iff] at h h'
  exact Option.some.inj (h.symm.trans h')

/-- Names without a first repetition are distinct. -/
theorem nodup_of_forall_not_firstRepeat {values : List α}
    (h : ∀ value, ¬ FirstRepeat values value) : values.Nodup := by
  rw [← repeated?_eq_none_iff, Option.eq_none_iff_forall_ne_some]
  intro value hvalue
  exact h value ((repeated?_eq_some_iff values value).1 hvalue)

variable [Quoted α]

theorem Registry.ofList_eq_error_iff (values : List α) (role : Role) (err : BuildError) :
    Registry.ofList values role = .error err ↔
      ∃ value, FirstRepeat values value ∧ err = role.duplicate (quoted value) := by
  unfold Registry.ofList
  split
  · rename_i value hvalue
    rw [Except.error.injEq]
    constructor
    · rintro rfl
      exact ⟨value, (repeated?_eq_some_iff values value).1 hvalue, rfl⟩
    · rintro ⟨value', hvalue', rfl⟩
      rw [← repeated?_eq_some_iff, hvalue] at hvalue'
      rw [Option.some.inj hvalue']
  · rename_i hnone
    constructor
    · intro h
      cases h
    · rintro ⟨value, hvalue, -⟩
      exact absurd ((repeated?_eq_none_iff values).1 hnone) hvalue.not_nodup

theorem Registry.exists_ofList_eq_ok {values : List α} (h : values.Nodup) (role : Role) :
    ∃ r, Registry.ofList values role = .ok r := by
  cases hr : Registry.ofList values role with
  | ok r => exact ⟨r, rfl⟩
  | error err =>
    obtain ⟨value, hvalue, -⟩ := (Registry.ofList_eq_error_iff values role err).1 hr
    exact absurd h hvalue.not_nodup

theorem Registry.toList_of_ofList_eq_ok {values : List α} {role : Role} {r : Registry α}
    (h : Registry.ofList values role = .ok r) : r.toList = values := by
  unfold Registry.ofList at h
  split at h
  · cases h
  · cases h
    rfl

theorem Registry.role_of_ofList_eq_ok {values : List α} {role : Role} {r : Registry α}
    (h : Registry.ofList values role = .ok r) : r.role = role := by
  unfold Registry.ofList at h
  split at h
  · cases h
  · cases h
    rfl

namespace Source

/-- The names of a source, for a table that provides for `derived` ids. -/
def names : {α : Type} → Source α → (derived : Nat) → List α
  | _, listed values, _ => values
  | _, ids, derived => List.range derived

/-- A source is refused with the first name that is repeated. -/
theorem registry_eq_error_iff (source : Source α) (derived : Nat) (role : Role) (err : BuildError) :
    source.registry derived role = .error err ↔
      ∃ name, FirstRepeat (source.names derived) name ∧ err = role.duplicate (quoted name) := by
  cases source with
  | listed values => exact Registry.ofList_eq_error_iff values role err
  | ids =>
    constructor
    · intro h
      cases h
    · rintro ⟨name, hname, -⟩
      exact absurd List.nodup_range hname.not_nodup

/-- The check of a source is a stage of its own. -/
theorem reports_registry {ι : Type} {place : ι → List Nat} {fails : ι → BuildError → Prop}
    {check : ι} {k derived : Nat} {role : Role} (source : Source α)
    (hfails : ∀ err, fails check err ↔
      ∃ name, FirstRepeat (source.names derived) name ∧ err = role.duplicate (quoted name))
    (hat : ∀ i, At place k i ↔ i = check) :
    Reports place fails (At place k) (errorOf? (source.registry derived role)) := by
  refine Reports.of_iff_at (fun err => ?_) hat
  rw [errorOf?_eq_some_iff, registry_eq_error_iff, hfails]

theorem toList_of_registry_eq_ok {source : Source α} {derived : Nat} {role : Role}
    {r : Registry α} (h : source.registry derived role = .ok r) :
    r.toList = source.names derived := by
  cases source with
  | listed values => exact Registry.toList_of_ofList_eq_ok h
  | ids =>
    cases h
    simp [Registry.toList, Registry.identity, names]

theorem role_of_registry_eq_ok {source : Source α} {derived : Nat} {role : Role} {r : Registry α}
    (h : source.registry derived role = .ok r) : r.role = role := by
  cases source with
  | listed values => exact Registry.role_of_ofList_eq_ok h
  | ids =>
    cases h
    rfl

end Source

end TableMachines
