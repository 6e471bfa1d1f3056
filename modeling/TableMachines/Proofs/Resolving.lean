import TableMachines.Proofs.Checklist
import TableMachines.Registry

/-!
# Resolving words

A word of names is turned into ids letter by letter, and the first name without an id is the error.
`FirstOutside` says of a member of a list that it is the first one to fail a condition; every list
either meets the condition throughout or has such a member (`forall_or_exists_firstOutside`).
Resolving a list with a lookup that may fail gives the results of the lookups, when they all succeed
(`mapM_eq_ok_iff`), and otherwise the error of the first that does not
(`FirstOutside.mapM_eq_error`). For a registry this says which words have ids, and which ones
(`Registry.mapM_idOf_eq_ok_iff`).
-/

namespace TableMachines

variable {α β ε : Type} {p : α → Prop} {xs : List α} {x : α}

/-- The members before `x` meet the condition, and `x` does not. -/
def FirstOutside (p : α → Prop) (xs : List α) (x : α) : Prop :=
  ∃ before after, xs = before ++ x :: after ∧ (∀ y ∈ before, p y) ∧ ¬ p x

theorem FirstOutside.mem (h : FirstOutside p xs x) : x ∈ xs := by
  obtain ⟨before, after, rfl, -, -⟩ := h
  exact List.mem_append_right before List.mem_cons_self

theorem FirstOutside.not (h : FirstOutside p xs x) : ¬ p x := by
  obtain ⟨-, -, -, -, hx⟩ := h
  exact hx

theorem firstOutside_cons_of_not (xs : List α) (hx : ¬ p x) : FirstOutside p (x :: xs) x :=
  ⟨[], xs, rfl, by simp, hx⟩

theorem FirstOutside.cons {y : α} (hy : p y) (h : FirstOutside p xs x) :
    FirstOutside p (y :: xs) x := by
  obtain ⟨before, after, rfl, hbefore, hx⟩ := h
  exact ⟨y :: before, after, rfl, List.forall_mem_cons.2 ⟨hy, hbefore⟩, hx⟩

theorem forall_or_exists_firstOutside (p : α → Prop) (xs : List α) :
    (∀ y ∈ xs, p y) ∨ ∃ x, FirstOutside p xs x := by
  induction xs with
  | nil => exact Or.inl (by simp)
  | cons y ys ih =>
    by_cases hy : p y
    · rcases ih with hall | ⟨x, hx⟩
      · exact Or.inl (List.forall_mem_cons.2 ⟨hy, hall⟩)
      · exact Or.inr ⟨x, hx.cons hy⟩
    · exact Or.inr ⟨y, firstOutside_cons_of_not ys hy⟩

/-- A member that fails the condition is the first to do so when no other member does. -/
theorem firstOutside_of_mem (hmem : x ∈ xs) (hx : ¬ p x) (hall : ∀ y ∈ xs, ¬ p y → y = x) :
    FirstOutside p xs x := by
  rcases forall_or_exists_firstOutside p xs with h | ⟨y, hy⟩
  · exact absurd (h x hmem) hx
  · rwa [← hall y hy.mem hy.not]

theorem FirstOutside.map {q : β → Prop} {g : α → β} (h : FirstOutside p xs x)
    (hg : ∀ y, q (g y) ↔ p y) : FirstOutside q (xs.map g) (g x) := by
  obtain ⟨before, after, rfl, hbefore, hx⟩ := h
  refine ⟨before.map g, after.map g, by simp, ?_, fun hgx => hx ((hg x).1 hgx)⟩
  intro z hz
  obtain ⟨y, hy, rfl⟩ := List.mem_map.1 hz
  exact (hg y).2 (hbefore y hy)

/-- A search for the members that fail a condition finds the first one. -/
theorem firstOutside_iff_find? {f : α → Bool} (hf : ∀ y, f y ↔ ¬ p y) :
    FirstOutside p xs x ↔ xs.find? f = some x := by
  have hf' (y : α) : (!f y) ↔ p y := by
    rw [Bool.not_eq_true', ← Bool.not_eq_true, hf, not_not]
  simp only [FirstOutside, List.find?_eq_some_iff_append, hf, hf']
  constructor
  · rintro ⟨before, after, hxs, hbefore, hx⟩
    exact ⟨hx, before, after, hxs, hbefore⟩
  · rintro ⟨hx, before, after, hxs, hbefore⟩
    exact ⟨before, after, hxs, hbefore, hx⟩

/-! ## Lookups that may fail -/

section

variable {f : α → Except ε β}

theorem mapM_eq_ok_iff {ys : List β} : xs.mapM f = .ok ys ↔ xs.map f = ys.map .ok := by
  induction xs generalizing ys with
  | nil => cases ys <;> simp [pure, Except.pure]
  | cons x xs ih =>
    rw [List.mapM_cons, bind_eq_ok_iff]
    constructor
    · rintro ⟨y, hy, hrest⟩
      obtain ⟨zs, hzs, hcons⟩ := bind_eq_ok_iff.1 hrest
      cases hcons
      rw [List.map_cons, List.map_cons, hy, ih.1 hzs]
    · intro h
      cases ys with
      | nil => cases h
      | cons y ys =>
        obtain ⟨hy, hys⟩ := List.cons.inj h
        exact ⟨y, hy, bind_eq_ok_iff.2 ⟨ys, ih.2 hys, rfl⟩⟩

theorem exists_mapM_eq_ok (h : ∀ y ∈ xs, ∃ z, f y = .ok z) : ∃ zs, xs.mapM f = .ok zs := by
  simp only [mapM_eq_ok_iff]
  induction xs with
  | nil => exact ⟨[], rfl⟩
  | cons x xs ih =>
    obtain ⟨⟨z, hz⟩, hrest⟩ := List.forall_mem_cons.1 h
    obtain ⟨zs, hzs⟩ := ih hrest
    exact ⟨z :: zs, by rw [List.map_cons, List.map_cons, hz, hzs]⟩

/-- Resolving stops at the first member whose lookup fails. -/
theorem FirstOutside.mapM_eq_error {err : ε} (h : FirstOutside p xs x)
    (hok : ∀ y, p y → ∃ z, f y = .ok z) (herr : f x = .error err) : xs.mapM f = .error err := by
  obtain ⟨before, after, rfl, hbefore, -⟩ := h
  obtain ⟨zs, hzs⟩ := exists_mapM_eq_ok fun y hy => hok y (hbefore y hy)
  rw [List.mapM_append, hzs, List.mapM_cons, herr]
  rfl

end

/-! ## Registries -/

namespace Registry

theorem lt_size_of_valueOf?_eq_some {r : Registry α} {id : Nat} {value : α}
    (h : r.valueOf? id = some value) : id < r.size :=
  (r.isSome_valueOf?_iff id).1 (by rw [h]; rfl)

/-- A lookup that goes by a registry turns words into the ids that their letters are the values
of. -/
theorem mapM_eq_ok_iff_of_lookup {r : Registry α} {f : α → Except ε Nat}
    (hf : ∀ value id, f value = .ok id ↔ r.valueOf? id = some value) {word : List α}
    {ids : List Nat} : word.mapM f = .ok ids ↔ ids.map r.valueOf? = word.map some := by
  rw [mapM_eq_ok_iff]
  induction word generalizing ids with
  | nil => cases ids <;> simp
  | cons value word ih =>
    cases ids with
    | nil => simp
    | cons id ids => simp only [List.map_cons, List.cons.injEq, hf, ih]

theorem forall_lt_size_of_names {r : Registry α} {ids : List Nat} {word : List α}
    (h : ids.map r.valueOf? = word.map some) : ∀ id ∈ ids, id < r.size := by
  intro id hmem
  obtain ⟨value, -, hvalue⟩ := List.mem_map.1 (h ▸ List.mem_map_of_mem hmem)
  exact lt_size_of_valueOf?_eq_some hvalue.symm

variable [DecidableEq α]

theorem isSome_idOf?_iff (r : Registry α) (value : α) :
    (r.idOf? value).isSome ↔ value ∈ r.toList := by
  rw [idOf?, List.isSome_idxOf?]

variable [Quoted α] {r : Registry α}

theorem idOf_eq_error {value : α} (h : value ∉ r.toList) :
    r.idOf value = .error (r.role.unknown (quoted value)) := by
  have hnone : r.idOf? value = none := by
    rw [← Option.not_isSome_iff_eq_none, isSome_idOf?_iff]
    exact h
  rw [idOf, hnone]

theorem exists_idOf_eq_ok {value : α} (h : value ∈ r.toList) : ∃ id, r.idOf value = .ok id := by
  obtain ⟨id, hid⟩ := Option.isSome_iff_exists.1 ((r.isSome_idOf?_iff value).2 h)
  exact ⟨id, by rw [idOf, hid]⟩

theorem lt_size_of_idOf_eq_ok {value : α} {id : Nat} (h : r.idOf value = .ok id) : id < r.size :=
  lt_size_of_valueOf?_eq_some ((r.idOf_eq_ok_iff value id).1 h)

/-- The ids of a word are those that its letters are the values of. -/
theorem mapM_idOf_eq_ok_iff {word : List α} {ids : List Nat} :
    word.mapM r.idOf = .ok ids ↔ ids.map r.valueOf? = word.map some :=
  mapM_eq_ok_iff_of_lookup r.idOf_eq_ok_iff

/-- A word whose letters all have ids is resolved. -/
theorem exists_mapM_idOf_eq_ok {word : List α} (h : ∀ value ∈ word, value ∈ r.toList) :
    ∃ ids, word.mapM r.idOf = .ok ids :=
  exists_mapM_eq_ok fun value hmem => exists_idOf_eq_ok (h value hmem)

/-- A word with a letter that has no id is refused with the first such letter. -/
theorem mapM_idOf_eq_error {word : List α} {value : α}
    (h : FirstOutside (· ∈ r.toList) word value) :
    word.mapM r.idOf = .error (r.role.unknown (quoted value)) := by
  exact h.mapM_eq_error (fun _ => exists_idOf_eq_ok) (idOf_eq_error h.not)

end Registry

end TableMachines
