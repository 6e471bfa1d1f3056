import TableMachines.Error
import TableMachines.Text.Quoted

/-!
# Registries

Machines compute with ids, the numbers from `0` on; a registry names them. It lists distinct
values, and the id of a value is its place in the list, so that values and ids determine each other
(`idOf?_eq_some_iff`). `Registry.ofList` accepts exactly the lists without repetition
(`repeated?_eq_none_iff`), and `Registry.identity` names every id by itself. The role says whether
the values are letters or states, which only changes the errors.

A `Source` is what a machine is built from: a list of values, or the ids themselves, whose number is
then read off the table.
-/

namespace TableMachines

/-- What a registry names. -/
inductive Role where
  | letter
  | state
  deriving DecidableEq, Repr

namespace Role

/-- The error for a name that is listed twice. -/
def duplicate : Role → String → BuildError
  | letter => .duplicateLetter
  | state => .duplicateState

/-- The error for a name that is not listed. -/
def unknown : Role → String → MachineError
  | letter => .unknownLetter
  | state => .unknownState

end Role

/-- The first value of a list that already occurs before its place or in `seen`. -/
def repeatedAfter? {α : Type} [DecidableEq α] (seen : List α) : List α → Option α
  | [] => none
  | value :: values =>
    if value ∈ seen then some value else repeatedAfter? (value :: seen) values

/-- The first value of a list that occurs before its place. -/
def repeated? {α : Type} [DecidableEq α] (values : List α) : Option α := repeatedAfter? [] values

theorem repeatedAfter?_eq_none_iff {α : Type} [DecidableEq α] (seen values : List α) :
    repeatedAfter? seen values = none ↔ values.Nodup ∧ ∀ value ∈ values, value ∉ seen := by
  induction values generalizing seen with
  | nil => simp [repeatedAfter?]
  | cons value values ih =>
    by_cases h : value ∈ seen
    · simp [repeatedAfter?, h]
    · simp only [repeatedAfter?, h, ↓reduceIte, ih, List.nodup_cons, List.mem_cons, not_or,
        forall_eq_or_imp, not_false_eq_true, true_and]
      constructor
      · rintro ⟨hnodup, hseen⟩
        exact ⟨⟨fun hmem => (hseen value hmem).1 rfl, hnodup⟩, fun v hv => (hseen v hv).2⟩
      · rintro ⟨⟨hnotMem, hnodup⟩, hseen⟩
        exact ⟨hnodup, fun v hv => ⟨fun e => hnotMem (e ▸ hv), hseen v hv⟩⟩

theorem repeated?_eq_none_iff {α : Type} [DecidableEq α] (values : List α) :
    repeated? values = none ↔ values.Nodup := by
  simp [repeated?, repeatedAfter?_eq_none_iff]

/-- Distinct values, numbered from `0` on. -/
structure Registry (α : Type) where
  values : Array α
  role : Role
  /-- Tells that every id is its own value by construction. -/
  isIdentity : Bool
  nodup_values : values.toList.Nodup
  deriving Repr

namespace Registry

variable {α : Type}

/-- The registry of a list; the first repeated value is refused. -/
def ofList [DecidableEq α] [Quoted α] (values : List α) (role : Role) :
    Except BuildError (Registry α) :=
  match h : repeated? values with
  | some value => .error (role.duplicate (quoted value))
  | none => .ok ⟨values.toArray, role, false, (repeated?_eq_none_iff values).1 h⟩

/-- The registry in which each of the first `n` ids is its own value. -/
def identity (n : Nat) (role : Role) : Registry Nat where
  values := Array.range n
  role := role
  isIdentity := true
  nodup_values := by simpa using List.nodup_range

/-- The number of values, which is the first id that is out of range. -/
def size (r : Registry α) : Nat := r.values.size

/-- Tells whether there are no values. -/
def isEmpty (r : Registry α) : Bool := r.values.isEmpty

/-- The values in the order of their ids. -/
def toList (r : Registry α) : List α := r.values.toList

/-- The value of an id, if the id is in range. -/
def valueOf? (r : Registry α) (id : Nat) : Option α := r.values[id]?

/-- The value of an id; an id past the end is refused. -/
def valueOf (r : Registry α) (id : Nat) : Except MachineError α :=
  match r.valueOf? id with
  | some value => .ok value
  | none => .error (.outOfRange id r.size)

/-- The id of a value, if the value occurs. -/
def idOf? [DecidableEq α] (r : Registry α) (value : α) : Option Nat := r.toList.idxOf? value

/-- The id of a value; a value that does not occur is refused. -/
def idOf [DecidableEq α] [Quoted α] (r : Registry α) (value : α) : Except MachineError Nat :=
  match r.idOf? value with
  | some id => .ok id
  | none => .error (r.role.unknown (quoted value))

@[simp]
theorem length_toList (r : Registry α) : r.toList.length = r.size := by
  simp [toList, size]

theorem valueOf?_eq_getElem? (r : Registry α) (id : Nat) : r.valueOf? id = r.toList[id]? := by
  simp [valueOf?, toList]

theorem valueOf?_eq_none_iff (r : Registry α) (id : Nat) :
    r.valueOf? id = none ↔ r.size ≤ id := by
  simp [valueOf?, size]

theorem isSome_valueOf?_iff (r : Registry α) (id : Nat) :
    (r.valueOf? id).isSome ↔ id < r.size := by
  simp [valueOf?, size]

theorem exists_valueOf?_eq_some {r : Registry α} {id : Nat} (h : id < r.size) :
    ∃ value, r.valueOf? id = some value :=
  ⟨_, Array.getElem?_eq_getElem h⟩

theorem valueOf_eq_ok_iff (r : Registry α) (id : Nat) (value : α) :
    r.valueOf id = .ok value ↔ r.valueOf? id = some value := by
  unfold valueOf
  split <;> simp_all

@[simp]
theorem size_identity (n : Nat) (role : Role) : (identity n role).size = n := by
  simp [identity, size]

theorem valueOf?_identity {n id : Nat} (role : Role) (h : id < n) :
    (identity n role).valueOf? id = some id := by
  simp [identity, valueOf?, h]

/-- Values and ids determine each other. -/
theorem idOf?_eq_some_iff [DecidableEq α] (r : Registry α) (value : α) (id : Nat) :
    r.idOf? value = some id ↔ r.valueOf? id = some value := by
  rw [idOf?, valueOf?_eq_getElem?, List.idxOf?_eq_some_iff]
  constructor
  · rintro ⟨h, hvalue, -⟩
    exact List.getElem?_eq_some_iff.2 ⟨h, hvalue⟩
  · intro h
    obtain ⟨hlt, hvalue⟩ := List.getElem?_eq_some_iff.1 h
    refine ⟨hlt, hvalue, fun j hj e => ?_⟩
    exact absurd ((List.getElem_inj r.nodup_values).1 (e.trans hvalue.symm)) (Nat.ne_of_lt hj)

theorem idOf_eq_ok_iff [DecidableEq α] [Quoted α] (r : Registry α) (value : α) (id : Nat) :
    r.idOf value = .ok id ↔ r.valueOf? id = some value := by
  rw [← idOf?_eq_some_iff]
  unfold idOf
  split <;> simp_all

end Registry

/-- What the letters or the states of a machine are given by. -/
inductive Source : Type → Type 1 where
  /-- The listed values, in the order of their ids. -/
  | listed {α : Type} (values : List α) : Source α
  /-- The ids themselves, as many as the table provides for. -/
  | ids : Source Nat

namespace Source

/-- The registry of a source, for a table that provides for `derived` ids. -/
def registry : {α : Type} → [DecidableEq α] → [Quoted α] → Source α → (derived : Nat) → Role →
    Except BuildError (Registry α)
  | _, _, _, listed values, _, role => Registry.ofList values role
  | _, _, _, ids, derived, role => .ok (Registry.identity derived role)

end Source

end TableMachines
