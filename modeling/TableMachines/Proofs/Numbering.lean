import Mathlib.Tactic.Linarith
import TableMachines.Proofs.Names
import TableMachines.Proofs.Resolving

/-!
# Registries as numberings

A registry numbers the values of a list: ids below its size and values of the list belong together
one to one, and every lookup goes by that (`Registry.Numbers`). The ids `0` to `n - 1` as their own
values are numbered in the same way whether or not they are listed
(`Registry.sameAnswers_identity`).

To look up values quickly in both directions, two stores are kept: the values in the order of their
ids, and for each value its id. `Stores.fill` enters a list of values into both, one after the
other, and stops at a value that has an id already. The stores are inverse to each other at the
beginning, and entering a new value keeps them so (`Stores.Inverse.enter`); whenever the loop ends,
the values entered so far are found in both. Its result is that of `Registry.ofList`
(`Stores.fill_empty_eq`), and the stores then answer what the registry answers
(`Stores.Inverse.keeps`).
-/

namespace TableMachines

variable {α : Type} [DecidableEq α]

/-! ## Two stores -/

/-- The values in the order of their ids, and beside them the id of each value. -/
structure Stores (α : Type) [BEq α] [Hashable α] where
  values : Array α
  ids : Std.HashMap α Nat

namespace Stores

section

variable [Hashable α] {s : Stores α} {value : α} {values seen : List α}

/-- The stores before any value is entered. -/
def empty : Stores α := ⟨#[], ∅⟩

/-- Gives a value the next id. -/
def enter (s : Stores α) (value : α) : Stores α :=
  ⟨s.values.push value, s.ids.insert value s.values.size⟩

/-- Gives values the next ids, one after the other, whether or not they have ids already. -/
def enterAll (s : Stores α) (values : List α) : Stores α := values.foldl enter s

/-- Enters values one by one, up to the first that has an id already. -/
def fill (s : Stores α) : List α → Except α (Stores α)
  | [] => .ok s
  | value :: values => if value ∈ s.ids then .error value else (s.enter value).fill values

/-- Each store undoes the other. -/
def Inverse (s : Stores α) : Prop :=
  ∀ (value : α) (id : Nat), s.ids[value]? = some id ↔ s.values[id]? = some value

theorem mem_ids_enter {v : α} : v ∈ (s.enter value).ids ↔ v = value ∨ v ∈ s.ids := by
  rw [enter, Std.HashMap.mem_insert, beq_iff_eq, eq_comm]

theorem inverse_empty : (empty : Stores α).Inverse := by
  intro value id
  simp [empty]

theorem Inverse.mem_ids_iff (h : s.Inverse) : value ∈ s.ids ↔ value ∈ s.values := by
  rw [← Std.HashMap.isSome_getElem?_iff_mem, Option.isSome_iff_exists, Array.mem_iff_getElem?]
  exact exists_congr fun id => h value id

/-- A value that is new gets an id that is new. -/
theorem Inverse.enter (h : s.Inverse) (hnew : value ∉ s.ids) : (s.enter value).Inverse := by
  intro v id
  change (s.ids.insert value s.values.size)[v]? = some id ↔ (s.values.push value)[id]? = some v
  rw [Std.HashMap.getElem?_insert, Array.getElem?_push]
  by_cases hv : value = v
  · subst hv
    have hmem : s.values[id]? ≠ some value := by
      intro hid
      exact hnew (h.mem_ids_iff.2 (Array.mem_of_getElem? hid))
    by_cases hid : id = s.values.size
    · simp [hid]
    · simp [hid, hmem, eq_comm (b := id)]
  · have hbeq : (value == v) = false := beq_eq_false_iff_ne.2 hv
    rw [hbeq, if_neg Bool.false_ne_true]
    by_cases hid : id = s.values.size
    · have hout : s.ids[v]? ≠ some id := by
        rw [Ne, h v id, hid, Array.getElem?_eq_none le_rfl]
        simp
      simp [hid ▸ hout, hid, hv]
    · rw [if_neg hid]
      exact h v id

/-- Entering new values one by one keeps the stores inverse to each other. -/
theorem Inverse.enterAll (h : s.Inverse) (hvalues : values.Nodup)
    (hnew : ∀ value ∈ values, value ∉ s.ids) : (s.enterAll values).Inverse := by
  induction values generalizing s with
  | nil => exact h
  | cons first values ih =>
    obtain ⟨hfirst, hvalues⟩ := List.nodup_cons.1 hvalues
    obtain ⟨hnewFirst, hnew⟩ := List.forall_mem_cons.1 hnew
    refine ih (h.enter hnewFirst) hvalues fun value hmem => ?_
    rw [mem_ids_enter, not_or]
    exact ⟨fun e => hfirst (e ▸ hmem), hnew value hmem⟩

theorem toList_values_enterAll (s : Stores α) (values : List α) :
    (s.enterAll values).values.toList = s.values.toList ++ values := by
  induction values generalizing s with
  | nil => exact (List.append_nil _).symm
  | cons first values ih =>
    change ((s.enter first).enterAll values).values.toList = _
    rw [ih, enter, Array.toList_push, List.append_assoc, List.singleton_append]

/-- The loop looks for the first repetition and enters all values when there is none. -/
theorem fill_eq (hseen : ∀ value, value ∈ seen ↔ value ∈ s.ids) (values : List α) :
    s.fill values = match repeatedAfter? seen values with
      | some value => .error value
      | none => .ok (s.enterAll values) := by
  induction values generalizing s seen with
  | nil => rfl
  | cons first values ih =>
    by_cases hfirst : first ∈ seen
    · rw [fill, if_pos ((hseen first).1 hfirst), repeatedAfter?, if_pos hfirst]
    · rw [fill, if_neg (mt (hseen first).2 hfirst), repeatedAfter?, if_neg hfirst, ih]
      · rfl
      · intro value
        rw [List.mem_cons, mem_ids_enter, hseen]

theorem fill_empty_eq (values : List α) :
    (empty : Stores α).fill values = match repeated? values with
      | some value => .error value
      | none => .ok (empty.enterAll values) :=
  fill_eq (by simp [empty]) values

theorem fill_empty_eq_error_iff :
    (empty : Stores α).fill values = .error value ↔ FirstRepeat values value := by
  rw [← repeated?_eq_some_iff, fill_empty_eq]
  cases repeated? values <;> simp

theorem fill_empty_of_nodup (h : values.Nodup) :
    (empty : Stores α).fill values = .ok (empty.enterAll values) := by
  rw [fill_empty_eq, (repeated?_eq_none_iff values).2 h]

theorem inverse_enterAll_empty (h : values.Nodup) :
    ((empty : Stores α).enterAll values).Inverse :=
  inverse_empty.enterAll h (by simp [empty])

/-- The stores answer what the registry answers, in both directions. -/
structure Keeps (s : Stores α) (r : Registry α) : Prop where
  values_eq : ∀ id : Nat, s.values[id]? = r.valueOf? id
  ids_eq : ∀ value : α, s.ids[value]? = r.idOf? value

/-- In stores that are inverse to each other the values decide about the ids. -/
theorem Inverse.keeps (h : s.Inverse) {r : Registry α} (hvalues : s.values.toList = r.toList) :
    s.Keeps r := by
  have hlookup (id : Nat) : s.values[id]? = r.valueOf? id := by
    rw [r.valueOf?_eq_getElem?, ← hvalues, Array.getElem?_toList]
  refine ⟨hlookup, fun value => Option.ext fun id => ?_⟩
  rw [r.idOf?_eq_some_iff, ← hlookup]
  exact h value id

end

/-- The stores in which each of the first `n` ids is its own value. -/
def identity (n : Nat) : Stores Nat :=
  ⟨Array.range n, Std.HashMap.ofList ((List.range n).map fun id => (id, id))⟩

theorem getElem?_ids_identity (n value : Nat) :
    (identity n).ids[value]? = if value < n then some value else none := by
  by_cases hvalue : value < n
  · rw [if_pos hvalue]
    refine Std.HashMap.getElem?_ofList_of_mem (beq_self_eq_true value) ?_ (by simpa using hvalue)
    rw [List.pairwise_map]
    exact List.nodup_range.imp fun hne => beq_eq_false_iff_ne.2 hne
  · rw [if_neg hvalue]
    refine Std.HashMap.getElem?_ofList_of_contains_eq_false ?_
    simpa [Function.comp_def] using hvalue

theorem inverse_identity (n : Nat) : (identity n).Inverse := by
  intro value id
  rw [getElem?_ids_identity, identity, Array.getElem?_range, Option.ite_none_right_eq_some,
    Option.ite_none_right_eq_some, Option.some.injEq, Option.some.injEq]
  omega

end Stores

/-! ## Registries -/

namespace Registry

variable [Quoted α] {r r' : Registry α} {values : List α} {role : Role}

theorem isIdentity_of_ofList_eq_ok (h : ofList values role = .ok r) : r.isIdentity = false := by
  unfold ofList at h
  split at h
  · cases h
  · cases h
    rfl

theorem exists_ofList_eq_ok_iff : (∃ r, ofList values role = .ok r) ↔ values.Nodup := by
  refine ⟨?_, fun h => exists_ofList_eq_ok h role⟩
  rintro ⟨r, h⟩
  rw [← toList_of_ofList_eq_ok h]
  exact r.nodup_values

/-- Ids and values of a list belong together by the places of the values. -/
structure Numbers (r : Registry α) (values : List α) (role : Role) : Prop where
  size_eq : r.size = values.length
  toList_eq : r.toList = values
  role_eq : r.role = role
  isIdentity_eq : r.isIdentity = false
  valueOf?_of_lt : ∀ id (h : id < values.length), r.valueOf? id = some values[id]
  valueOf?_of_le : ∀ id, values.length ≤ id → r.valueOf? id = none
  idOf_eq_ok_iff : ∀ value id, r.idOf value = .ok id ↔ r.valueOf? id = some value
  idOf_fails_iff : ∀ value, (∃ err, r.idOf value = .error err) ↔ value ∉ values
  idOf_eq_error : ∀ value ∉ values, r.idOf value = .error (match role with
    | .letter => .unknownLetter (quoted value)
    | .state => .unknownState (quoted value))

theorem numbers_of_ofList (h : ofList values role = .ok r) : r.Numbers values role := by
  have hvalues := toList_of_ofList_eq_ok h
  have hrole := role_of_ofList_eq_ok h
  have herror (value : α) (hmem : value ∉ values) :
      r.idOf value = .error (role.unknown (quoted value)) := by
    rw [← hrole]
    exact idOf_eq_error (hvalues ▸ hmem)
  refine ⟨?_, hvalues, hrole, isIdentity_of_ofList_eq_ok h, ?_, ?_, r.idOf_eq_ok_iff, ?_, ?_⟩
  · rw [← length_toList, hvalues]
  · intro id hid
    rw [valueOf?_eq_getElem?, hvalues]
    exact List.getElem?_eq_getElem hid
  · intro id hid
    rw [valueOf?_eq_getElem?, hvalues]
    exact List.getElem?_eq_none hid
  · intro value
    constructor
    · rintro ⟨err, herr⟩ hmem
      obtain ⟨id, hid⟩ := exists_idOf_eq_ok (hvalues.symm ▸ hmem)
      cases herr.symm.trans hid
    · intro hmem
      exact ⟨_, herror value hmem⟩
  · intro value hmem
    rw [herror value hmem]
    cases role <;> rfl

/-- Two registries cannot be told apart by what they say about ids, values and their role. -/
structure SameAnswers (r r' : Registry α) : Prop where
  size_eq : r.size = r'.size
  isEmpty_eq : r.isEmpty = r'.isEmpty
  toList_eq : r.toList = r'.toList
  role_eq : r.role = r'.role
  valueOf?_eq : ∀ id, r.valueOf? id = r'.valueOf? id
  idOf_eq : ∀ value, r.idOf value = r'.idOf value

/-- The values in their order and the role decide about the answers. -/
theorem sameAnswers_of_toList_eq (hvalues : r.toList = r'.toList) (hrole : r.role = r'.role) :
    r.SameAnswers r' := by
  have harray : r.values = r'.values := Array.toList_inj.1 hvalues
  refine ⟨?_, ?_, hvalues, hrole, fun id => ?_, fun value => ?_⟩
  · rw [size, size, harray]
  · rw [isEmpty, isEmpty, harray]
  · rw [valueOf?, valueOf?, harray]
  · rw [idOf, idOf, idOf?, idOf?, hvalues, hrole]

theorem sameAnswers_identity {n : Nat} {r : Registry Nat}
    (h : ofList (List.range n) role = .ok r) : (identity n role).SameAnswers r := by
  apply sameAnswers_of_toList_eq
  · rw [toList_of_ofList_eq_ok h]
    simp [toList, identity]
  · rw [role_of_ofList_eq_ok h]
    rfl

end Registry

/-- How the registry of a list comes about, and what it says. -/
structure Numbering [Hashable α] [Quoted α] (values : List α) (role : Role) : Prop where
  exists_ofList_iff : (∃ r, Registry.ofList values role = .ok r) ↔ values.Nodup
  /-- The error shows the first value that stands in the list a second time. -/
  ofList_refuses : ∀ err, Registry.ofList values role = .error err ↔
    ∃ value, FirstRepeat values value ∧ err = (match role with
      | .letter => .duplicateLetter (quoted value)
      | .state => .duplicateState (quoted value))
  numbers : ∀ r, Registry.ofList values role = .ok r → r.Numbers values role
  /-- The stores are inverse to each other when the values before any place that the loop comes to
  are entered. -/
  inverse : ∀ before after, values = before ++ after → before.Nodup →
    (Stores.empty.enterAll before).Inverse
  fill_refuses : ∀ value, Stores.empty.fill values = .error value ↔ FirstRepeat values value
  /-- Stores that are filled to the end answer what the registry answers. -/
  keeps : ∀ r, Registry.ofList values role = .ok r →
    ∃ s, Stores.empty.fill values = .ok s ∧ s.Keeps r

/-- A list of values makes a registry that numbers them unless a value is repeated, and the ids
below `n` make the same registry without being listed. -/
theorem numbering [Hashable α] [Quoted α] (values : List α) (role : Role) (n : Nat) :
    Numbering values role ∧
      (∃ r, Registry.ofList (List.range n) role = .ok r ∧
        (Registry.identity n role).SameAnswers r ∧ r.isIdentity = false) ∧
      (Registry.identity n role).isIdentity = true ∧
      (Stores.identity n).Keeps (Registry.identity n role) := by
  refine ⟨⟨Registry.exists_ofList_eq_ok_iff, ?_, fun _ => Registry.numbers_of_ofList, ?_,
    fun _ => Stores.fill_empty_eq_error_iff, ?_⟩, ?_, rfl, ?_⟩
  · intro err
    rw [Registry.ofList_eq_error_iff]
    cases role <;> rfl
  · rintro before - - hbefore
    exact Stores.inverse_enterAll_empty hbefore
  · intro r h
    have hnodup := Registry.exists_ofList_eq_ok_iff.1 ⟨r, h⟩
    refine ⟨_, Stores.fill_empty_of_nodup hnodup,
      (Stores.inverse_enterAll_empty hnodup).keeps ?_⟩
    rw [Stores.toList_values_enterAll, Registry.toList_of_ofList_eq_ok h]
    rfl
  · obtain ⟨r, h⟩ := Registry.exists_ofList_eq_ok List.nodup_range role
    exact ⟨r, h, Registry.sameAnswers_identity h, Registry.isIdentity_of_ofList_eq_ok h⟩
  · exact (Stores.inverse_identity n).keeps rfl

/-- Of `aba` the second `a` is refused; in `abc` the third letter has the id `2`. -/
theorem letters_numbering :
    Registry.ofList ['a', 'b', 'a'] .letter = .error (.duplicateLetter (quoted 'a')) ∧
      ∃ r, Registry.ofList ['a', 'b', 'c'] .letter = .ok r ∧ r.valueOf? 3 = none ∧
        r.idOf 'c' = .ok 2 ∧ r.idOf 'd' = .error (.unknownLetter (quoted 'd')) := by
  obtain ⟨haba, -⟩ := numbering ['a', 'b', 'a'] .letter 0
  obtain ⟨habc, -⟩ := numbering ['a', 'b', 'c'] .letter 0
  obtain ⟨r, hr⟩ := habc.exists_ofList_iff.2 (by decide)
  have hnumbers := habc.numbers r hr
  refine ⟨(haba.ofList_refuses _).2 ⟨'a', ⟨['a', 'b'], [], rfl, by decide, by decide⟩, rfl⟩, r, hr,
    hnumbers.valueOf?_of_le 3 (by decide), ?_, hnumbers.idOf_eq_error 'd' (by decide)⟩
  exact (hnumbers.idOf_eq_ok_iff 'c' 2).2 (hnumbers.valueOf?_of_lt 2 (by decide))

end TableMachines
