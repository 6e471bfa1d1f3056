import Mathlib.Data.List.Lex
import Mathlib.Order.Defs.LinearOrder
import TableMachines.Table

/-!
# Checks in an order

A checklist is a collection of checks with places, which are numbered like the sections of a
document: check `2.1` comes after check `2` and before check `3`. A check that fails has an error,
and the error of a checklist is that of its first failing check (`FirstFailure`).

`Reports s r` says that `r` is the error of the checks in `s`, or nothing when they all hold.
Reports are put together the way programs look for errors: one search after another (`Reports.or`,
`Reports.bind`), and one search for each member of a list (`Reports.findSome?`). A report on all
checks is the first failure and nothing else (`Reports.eq_some_iff`).
-/

namespace TableMachines

/-- The error of a computation that failed. -/
def errorOf? {ε α : Type} : Except ε α → Option ε
  | .error err => some err
  | .ok _ => none

theorem errorOf?_eq_some_iff {ε α : Type} {x : Except ε α} {err : ε} :
    errorOf? x = some err ↔ x = .error err := by
  cases x <;> simp [errorOf?]

theorem errorOf?_eq_none_iff {ε α : Type} {x : Except ε α} :
    errorOf? x = none ↔ ∃ a, x = .ok a := by
  cases x <;> simp [errorOf?]

theorem mapError_eq_ok_iff {ε ε' α : Type} {f : ε → ε'} {x : Except ε α} {a : α} :
    x.mapError f = .ok a ↔ x = .ok a := by
  cases x <;> simp [Except.mapError]

theorem mapError_eq_error_iff {ε ε' α : Type} {f : ε → ε'} {x : Except ε α} {err' : ε'} :
    x.mapError f = .error err' ↔ ∃ err, x = .error err ∧ err' = f err := by
  cases x <;> simp [Except.mapError, eq_comm]

theorem bind_eq_ok_iff {ε α β : Type} {x : Except ε α} {f : α → Except ε β} {b : β} :
    (x >>= f) = .ok b ↔ ∃ a, x = .ok a ∧ f a = .ok b := by
  cases x <;> simp [bind, Except.bind]

/-- An error, unless a condition holds. -/
def refusal {ε : Type} (condition : Prop) [Decidable condition] (err : ε) : Option ε :=
  if condition then none else some err

theorem refusal_eq_some_iff {ε : Type} {condition : Prop} [Decidable condition] {err err' : ε} :
    refusal condition err = some err' ↔ ¬ condition ∧ err' = err := by
  unfold refusal
  split_ifs with h <;> simp [h, eq_comm]

/-- The places of a table come in row order. -/
theorem Table.pairwise_places (rows cols : Nat) :
    (places rows cols).Pairwise fun a b => a.1 < b.1 ∨ a.1 = b.1 ∧ a.2 < b.2 := by
  unfold places
  rw [List.pairwise_flatMap]
  constructor
  · intro row _
    rw [List.pairwise_map]
    exact List.pairwise_lt_range.imp fun hlt => Or.inr ⟨rfl, hlt⟩
  · refine List.pairwise_lt_range.imp fun hlt => ?_
    intro a ha b hb
    obtain ⟨_, -, rfl⟩ := List.mem_map.1 ha
    obtain ⟨_, -, rfl⟩ := List.mem_map.1 hb
    exact Or.inl hlt

namespace Checklist

variable {ι ε α : Type} {place : ι → List Nat} {fails : ι → ε → Prop}

/-- Some check fails with this error, and no check of a smaller place fails. -/
def FirstFailure (place : ι → List Nat) (fails : ι → ε → Prop) (err : ε) : Prop :=
  ∃ i, fails i err ∧ ∀ j err', fails j err' → ¬ place j < place i

/-- The error of the first failing check in `s`, or nothing when none of them fails. -/
structure Reports (place : ι → List Nat) (fails : ι → ε → Prop) (s : ι → Prop) (r : Option ε) :
    Prop where
  of_some : ∀ err, r = some err →
    ∃ i, s i ∧ fails i err ∧ ∀ j err', s j → fails j err' → ¬ place j < place i
  of_none : r = none → ∀ i err, s i → ¬ fails i err

/-! ## Stages -/

/-- The checks of the stage `k`: their places begin with this number. -/
def At (place : ι → List Nat) (k : Nat) (i : ι) : Prop := (place i).headD 0 = k

/-- The checks from stage `k` on. -/
def From (place : ι → List Nat) (k : Nat) (i : ι) : Prop := k ≤ (place i).headD 0

theorem lt_of_headD_lt {p q : List Nat} (h : p.headD 0 < q.headD 0) : p < q := by
  cases q with
  | nil => exact absurd h (Nat.not_lt_zero _)
  | cons b q =>
    cases p with
    | nil => exact List.nil_lt_cons b q
    | cons a p => exact List.cons_lt_cons_iff.2 (Or.inl h)

theorem at_or_from_iff (place : ι → List Nat) (k : Nat) (i : ι) :
    At place k i ∨ From place (k + 1) i ↔ From place k i := by
  unfold At From
  omega

theorem place_lt_of_at_of_from {k : Nat} (i j : ι) (hi : At place k i)
    (hj : From place (k + 1) j) : place i < place j := by
  apply lt_of_headD_lt
  rw [hi]
  exact hj

/-! ## Reports of searches -/

namespace Reports

variable {s t : ι → Prop} {r r' : Option ε}

theorem of_iff {i : ι} (h : ∀ err, r = some err ↔ fails i err) :
    Reports place fails (· = i) r where
  of_some err hr := by
    refine ⟨i, rfl, (h err).1 hr, ?_⟩
    rintro j - rfl - hlt
    exact lt_irrefl _ hlt
  of_none hr := by
    rintro j err rfl hfails
    rw [(h err).2 hfails] at hr
    cases hr

/-- A stage with one check. -/
theorem of_iff_at {i : ι} {k : Nat} (h : ∀ err, r = some err ↔ fails i err)
    (hat : ∀ j, At place k j ↔ j = i) : Reports place fails (At place k) r := by
  rw [show At place k = (· = i) from funext fun j => propext (hat j)]
  exact of_iff h

/-- A stage with one check, of one condition. -/
theorem of_refusal {i : ι} {k : Nat} {condition : Prop} [Decidable condition] {err : ε}
    (h : ∀ err', fails i err' ↔ ¬ condition ∧ err' = err) (hat : ∀ j, At place k j ↔ j = i) :
    Reports place fails (At place k) (refusal condition err) :=
  of_iff_at (fun err' => refusal_eq_some_iff.trans (h err').symm) hat

/-- Checks that never fail can be added and left out. -/
theorem of_subset (h : Reports place fails s r) (hst : ∀ i, s i → t i)
    (hts : ∀ i err, t i → fails i err → s i) : Reports place fails t r where
  of_some err hr := by
    obtain ⟨i, hi, hfails, hfirst⟩ := h.of_some err hr
    exact ⟨i, hst i hi, hfails, fun j err' hj hj' => hfirst j err' (hts j err' hj hj') hj'⟩
  of_none hr i err hi hfails := h.of_none hr i err (hts i err hi hfails) hfails

/-- After a failure, later checks do not matter. -/
theorem of_failure {err : ε} (h : Reports place fails s (some err))
    (hlt : ∀ i j, s i → t j → place i < place j) :
    Reports place fails (fun i => s i ∨ t i) (some err) where
  of_some err' heq := by
    obtain ⟨i, hi, hfails, hfirst⟩ := h.of_some err' heq
    refine ⟨i, Or.inl hi, hfails, ?_⟩
    rintro j err'' (hj | hj) hj'
    · exact hfirst j err'' hj hj'
    · exact lt_asymm (hlt i j hi hj)
  of_none heq := by cases heq

/-- Without a failure so far, later checks decide. -/
theorem of_success (h : Reports place fails s none) (h' : Reports place fails t r) :
    Reports place fails (fun i => s i ∨ t i) r := by
  refine h'.of_subset (fun i hi => Or.inr hi) ?_
  rintro i err (hi | hi) hfails
  · exact absurd hfails (h.of_none rfl i err hi)
  · exact hi

theorem or (h : Reports place fails s r) (h' : Reports place fails t r')
    (hlt : ∀ i j, s i → t j → place i < place j) :
    Reports place fails (fun i => s i ∨ t i) (r.or r') := by
  cases r with
  | some err => exact h.of_failure hlt
  | none => exact h.of_success h'

theorem bind {β : Type} {x : Except ε α} {f : α → Except ε β}
    (h : Reports place fails s (errorOf? x))
    (h' : ∀ a, x = .ok a → Reports place fails t (errorOf? (f a)))
    (hlt : ∀ i j, s i → t j → place i < place j) :
    Reports place fails (fun i => s i ∨ t i) (errorOf? (x >>= f)) := by
  cases x with
  | error err => exact h.of_failure hlt
  | ok a => exact h.of_success (h' a rfl)

/-- One search for each member of a list, whose checks come in the order of the list. -/
theorem findSome? {l : List α} {f : α → Option ε} {s : α → ι → Prop}
    (h : ∀ a ∈ l, Reports place fails (s a) (f a))
    (hlt : l.Pairwise fun a b => ∀ i j, s a i → s b j → place i < place j) :
    Reports place fails (fun i => ∃ a ∈ l, s a i) (l.findSome? f) := by
  induction l with
  | nil =>
    constructor
    · intro err heq
      cases heq
    · rintro - i err ⟨a, hmem, -⟩
      cases hmem
  | cons a l ih =>
    obtain ⟨ha, hl⟩ := List.forall_mem_cons.1 h
    obtain ⟨hfirst, hrest⟩ := List.pairwise_cons.1 hlt
    have hor := ha.or (ih hl hrest) fun i j hi ⟨b, hb, hj⟩ => hfirst b hb i j hi hj
    have hsplit : (a :: l).findSome? f = (f a).or (l.findSome? f) := by
      rw [List.findSome?_cons]
      cases f a <;> rfl
    rw [hsplit]
    exact hor.of_subset (fun i => by simp) fun i _ hi _ => by simpa using hi

/-- A stage and the later ones are the stages from it on. -/
theorem of_stages {k : Nat}
    (h : Reports place fails (fun i => At place k i ∨ From place (k + 1) i) r) :
    Reports place fails (From place k) r :=
  h.of_subset (fun i => (at_or_from_iff place k i).1)
    fun i _ hi _ => (at_or_from_iff place k i).2 hi

theorem or_stage {k : Nat} (h : Reports place fails (At place k) r)
    (h' : Reports place fails (From place (k + 1)) r') :
    Reports place fails (From place k) (r.or r') :=
  (h.or h' place_lt_of_at_of_from).of_stages

theorem bind_stage {β : Type} {x : Except ε α} {f : α → Except ε β} {k : Nat}
    (h : Reports place fails (At place k) (errorOf? x))
    (h' : ∀ a, x = .ok a → Reports place fails (From place (k + 1)) (errorOf? (f a))) :
    Reports place fails (From place k) (errorOf? (x >>= f)) :=
  (h.bind h' place_lt_of_at_of_from).of_stages

/-- The last stage is all that there is from it on. -/
theorem of_last_stage {k : Nat} (h : Reports place fails (At place k) r)
    (hlast : ∀ i, (place i).headD 0 ≤ k) : Reports place fails (From place k) r :=
  h.of_subset (fun _ hi => Nat.le_of_eq hi.symm) fun i _ hi _ => Nat.le_antisymm (hlast i) hi

/-- One search for each cell of a table in row order, at places that begin with the row and the
column of the cell. -/
theorem findSome?_places {rows cols k : Nat} {f : Nat → Nat → Option ε} {s : Nat → Nat → ι → Prop}
    (h : ∀ row < rows, ∀ col < cols, Reports place fails (s row col) (f row col))
    (hplace : ∀ row col i, s row col i → ∃ rest, place i = k :: row :: col :: rest)
    (hall : ∀ i err, At place k i → fails i err → ∃ row < rows, ∃ col < cols, s row col i) :
    Reports place fails (At place k)
      ((Table.places rows cols).findSome? fun (row, col) => f row col) := by
  have hcells : Reports place fails (fun i => ∃ p ∈ Table.places rows cols, s p.1 p.2 i)
      ((Table.places rows cols).findSome? fun p => f p.1 p.2) := by
    apply findSome?
    · intro p hp
      obtain ⟨hr, hc⟩ := Table.mem_places_iff.1 hp
      exact h p.1 hr p.2 hc
    · refine (Table.pairwise_places rows cols).imp fun hlt i j hi hj => ?_
      obtain ⟨rest, hi⟩ := hplace _ _ i hi
      obtain ⟨rest', hj⟩ := hplace _ _ j hj
      rw [hi, hj]
      simp only [List.cons_lt_cons_iff, lt_irrefl, true_and, false_or]
      exact hlt.imp id fun ⟨hrow, hcol⟩ => ⟨hrow, Or.inl hcol⟩
  refine hcells.of_subset ?_ ?_
  · rintro i ⟨p, -, hi⟩
    obtain ⟨rest, hi⟩ := hplace _ _ i hi
    rw [At, hi]
    rfl
  · intro i err hi hfails
    obtain ⟨row, hr, col, hc, hs⟩ := hall i err hi hfails
    exact ⟨(row, col), Table.mem_places_iff.2 ⟨hr, hc⟩, hs⟩

/-! ## Reports on all checks -/

theorem eq_none_iff (h : Reports place fails (From place 0) r) :
    r = none ↔ ∀ i err, ¬ fails i err := by
  constructor
  · intro hr i err
    exact h.of_none hr i err (Nat.zero_le _)
  · intro hholds
    cases r with
    | none => rfl
    | some err =>
      obtain ⟨i, -, hfails, -⟩ := h.of_some err rfl
      exact absurd hfails (hholds i err)

/-- Where no two checks share a place and a check fails with one error only, the report on all
checks is the first failure. -/
theorem eq_some_iff (h : Reports place fails (From place 0) r) (hplace : Function.Injective place)
    (hfails : ∀ i err err', fails i err → fails i err' → err = err') (err : ε) :
    r = some err ↔ FirstFailure place fails err := by
  constructor
  · intro hr
    obtain ⟨i, -, hi, hfirst⟩ := h.of_some err hr
    exact ⟨i, hi, fun j err' => hfirst j err' (Nat.zero_le _)⟩
  · rintro ⟨i, hi, hfirst⟩
    cases hr : r with
    | none => exact absurd hi (h.eq_none_iff.1 hr i err)
    | some err' =>
      obtain ⟨j, -, hj, hfirst'⟩ := h.of_some err' hr
      -- Each of the two checks comes first, so they have one place.
      have hle := not_lt.1 (hfirst' i err (Nat.zero_le _) hi)
      have hge := not_lt.1 (hfirst j err' hj)
      obtain rfl := hplace (le_antisymm hge hle)
      rw [hfails i err err' hi hj]

end Reports

end Checklist

end TableMachines
