import TableMachines.Proofs.Operations
import TableMachines.Proofs.Queries

/-!
# Machines that share a table

The table of a finite machine can be given another initial state and other final flags. The machine
over ids that is built from them has the letters and the states of the first one, because the table
has a column for each letter and a row for each state (`byId_transitions_eq_ok_iff`). So it reads
words as the first one does, and its answer is the flag of the state that the table leads to
(`acceptsById_of_byId`). With the same initial state, negated flags give the complement of the
language among the words of letter ids, and flags combined by `or` and `and` give the union and the
intersection (`exists_byId_zipWith`).
-/

namespace TableMachines

namespace Column

variable {α β γ : Type}

/-- The entries of a column changed one by one. -/
def map (f : α → β) (c : Column α) : Column β := ⟨c.entries.map f⟩

/-- The entries of two columns combined, index by index. -/
def zipWith (f : α → β → γ) (c : Column α) (d : Column β) : Column γ :=
  ⟨Array.zipWith f c.entries d.entries⟩

theorem map_eq_zipWith (f : α → β) (c : Column α) : c.map f = zipWith (fun x _ => f x) c c := by
  simp [map, zipWith]

@[simp]
theorem size_zipWith (f : α → β → γ) (c : Column α) (d : Column β) :
    (c.zipWith f d).size = min c.size d.size := by
  simp [zipWith, size]

theorem get?_zipWith {f : α → β → γ} {c : Column α} {d : Column β} {index : Nat} {x : α} {y : β}
    (hx : c.get? index = some x) (hy : d.get? index = some y) :
    (zipWith f c d).get? index = some (f x y) := by
  rw [get?] at hx hy ⊢
  rw [zipWith, Array.getElem?_zipWith, hx, hy]

end Column

namespace FiniteMachine

variable {A S : Type} {m : FiniteMachine A S} {m' : FiniteMachine Nat Nat} {initial : Nat}
  {finals : Column Bool} {word : List Nat}

/-! ## Building over the table of a machine -/

/-- The parts of the machine that has the letters and states of a table for its ids. -/
def idDraft (initial : Nat) (transitions : Table Nat) (finals : Column Bool) : Draft Nat Nat where
  alphabet := .identity transitions.cols .letter
  states := .identity transitions.rows .state
  initial := initial
  transitions := transitions
  finals := finals

theorem byId_eq_ok_iff {transitions : Table Nat} :
    byId initial transitions finals = .ok m' ↔
      ofDraft (idDraft initial transitions finals) = .ok m' := by
  change (ofDraft (idDraft initial transitions finals)).mapError MachineError.construction = _ ↔ _
  exact mapError_eq_ok_iff

/-- The table of a machine only has cells that are states of the machine, which leaves the initial
state and the number of flags to be checked. -/
theorem wellFormed_idDraft_iff (m : FiniteMachine A S) (initial : Nat) (finals : Column Bool) :
    (idDraft initial m.transitions finals).WellFormed ↔
      initial < m.states.size ∧ finals.size = m.states.size := by
  have hrows : (idDraft initial m.transitions finals).states.size = m.states.size :=
    (Registry.size_identity _ _).trans m.wellFormed.rows_eq
  constructor
  · intro w
    exact ⟨hrows ▸ w.initial_lt, w.size_finals.trans hrows⟩
  · rintro ⟨hinitial, hfinals⟩
    refine ⟨hrows ▸ hinitial, (Registry.size_identity _ _).symm, (Registry.size_identity _ _).symm,
      hfinals.trans hrows.symm, ?_⟩
    intro state letter target htarget
    exact hrows ▸ m.wellFormed.target_lt state letter target htarget

theorem byId_transitions_eq_ok_iff (m : FiniteMachine A S) (initial : Nat)
    (finals : Column Bool) : (∃ m', byId initial m.transitions finals = .ok m') ↔
      initial < m.states.size ∧ finals.size = m.states.size := by
  simp only [byId_eq_ok_iff]
  exact (exists_ofDraft_eq_ok_iff _).trans (m.wellFormed_idDraft_iff initial finals)

/-! ## Reading with other flags -/

/-- The flag of the state that a word of ids leads to. -/
def flagAfter (m : FiniteMachine A S) (initial : Nat) (finals : Column Bool) (word : List Nat) :
    Except MachineError Bool := do
  finals.get (← m.advance initial (← m.checkLetterIds word))

theorem acceptsById_eq_flagAfter (m : FiniteMachine A S) (word : List Nat) :
    m.acceptsById word = m.flagAfter m.initial m.finals word := by
  rw [acceptsById, stateIdAfterById_eq, flagAfter, bind_assoc]
  rfl

theorem checkLetterIds_congr {B T : Type} {m₁ : FiniteMachine B T}
    (h : m₁.alphabet.size = m.alphabet.size) (word : List Nat) :
    m₁.checkLetterIds word = m.checkLetterIds word := by
  have hletter : m₁.checkLetterId = m.checkLetterId := by
    funext letter
    rw [checkLetterId, checkLetterId, h]
  rw [checkLetterIds, checkLetterIds, hletter]

theorem acceptsById_of_byId (h : byId initial m.transitions finals = .ok m') (word : List Nat) :
    m'.acceptsById word = m.flagAfter initial finals word := by
  have hparts : m'.toDraft = idDraft initial m.transitions finals :=
    toDraft_of_ofDraft_eq_ok (byId_eq_ok_iff.1 h)
  have hletters : m'.alphabet.size = m.alphabet.size := by
    rw [hparts]
    exact (Registry.size_identity _ _).trans m.wellFormed.cols_eq
  have hstep : m'.transitionById = m.transitionById := by
    funext state letter
    rw [transitionById, hparts]
    rfl
  have hadvance : m'.advance = m.advance := by
    funext state word
    rw [advance, advance, hstep]
  rw [acceptsById_eq_flagAfter, flagAfter, flagAfter, hadvance, checkLetterIds_congr hletters,
    hparts]
  rfl

theorem flagAfter_eq_ok {state : Nat} {final : Bool} (hword : ∀ id ∈ word, id < m.alphabet.size)
    (hread : m.advance initial word = .ok state) (hfinal : finals.get? state = some final) :
    m.flagAfter initial finals word = .ok final := by
  rw [flagAfter, checkLetterIds_eq_ok hword]
  change (m.advance initial word >>= finals.get) = _
  rw [hread]
  exact (finals.get_eq_ok_iff state final).2 hfinal

theorem exists_flagAfter_eq_ok (hinitial : initial < m.states.size)
    (hsize : finals.size = m.states.size) (hword : ∀ id ∈ word, id < m.alphabet.size) :
    ∃ state final, m.advance initial word = .ok state ∧ finals.get? state = some final ∧
      m.flagAfter initial finals word = .ok final := by
  obtain ⟨state, hlt, hread⟩ := m.exists_advance_eq_ok hinitial hword
  obtain ⟨final, hfinal⟩ := Column.exists_get?_eq_some (hsize ▸ hlt)
  exact ⟨state, final, hread, hfinal, flagAfter_eq_ok hword hread hfinal⟩

theorem flagAfter_of_firstOutside {id : Nat} (h : FirstOutside (· < m.alphabet.size) word id)
    (initial : Nat) (finals : Column Bool) :
    m.flagAfter initial finals word = .error (.invalidLetter (toString id)) := by
  rw [flagAfter, checkLetterIds_of_firstOutside h]
  rfl

theorem forall_lt_of_flagAfter_eq_ok {final : Bool}
    (h : m.flagAfter initial finals word = .ok final) : ∀ id ∈ word, id < m.alphabet.size := by
  rcases forall_or_exists_firstOutside (· < m.alphabet.size) word with hword | ⟨id, hid⟩
  · exact hword
  · rw [flagAfter_of_firstOutside hid] at h
    cases h

/-- Errors depend neither on the flags nor on the state that reading starts in. -/
theorem flagAfter_eq_error_iff (hinitial : initial < m.states.size)
    (hsize : finals.size = m.states.size) (word : List Nat) (err : MachineError) :
    m.flagAfter initial finals word = .error err ↔
      ∃ id, FirstOutside (· < m.alphabet.size) word id ∧ err = .invalidLetter (toString id) := by
  constructor
  · intro h
    rcases forall_or_exists_firstOutside (· < m.alphabet.size) word with hword | ⟨id, hid⟩
    · obtain ⟨-, final, -, -, hflag⟩ := exists_flagAfter_eq_ok hinitial hsize hword
      rw [hflag] at h
      cases h
    · rw [flagAfter_of_firstOutside hid] at h
      cases h
      exact ⟨id, hid, rfl⟩
  · rintro ⟨id, hid, rfl⟩
    exact flagAfter_of_firstOutside hid initial finals

/-- Going to a state and reading a word there ends where the table leads. -/
theorem run_setStateId_readWordById {state : Nat} (hinitial : initial < m.states.size)
    (hword : ∀ id ∈ word, id < m.alphabet.size) (hread : m.advance initial word = .ok state)
    (start : Nat) :
    (do m.setStateId initial; m.readWordById word : Run Unit).run.run start = (.ok (), state) := by
  rw [run_bind, setStateId, run_move_of_ok (if_pos hinitial)]
  refine run_move_of_ok ?_
  rw [checkLetterIds_eq_ok hword]
  exact hread

/-! ## Languages -/

/-- The words of letter ids. -/
def letterWords (m : FiniteMachine A S) : Set (List Nat) :=
  {word | ∀ id ∈ word, id < m.alphabet.size}

/-- The words of letter ids that are accepted. -/
def language (m : FiniteMachine A S) : Set (List Nat) := {word | m.acceptsById word = .ok true}

theorem language_subset_letterWords (h : byId initial m.transitions finals = .ok m') :
    m'.language ⊆ m.letterWords := by
  intro word haccepted
  exact forall_lt_of_flagAfter_eq_ok ((acceptsById_of_byId h word).symm.trans haccepted)

theorem mem_language_iff_of_byId {state : Nat} {final : Bool}
    (h : byId initial m.transitions finals = .ok m') (hword : word ∈ m.letterWords)
    (hread : m.advance initial word = .ok state) (hfinal : finals.get? state = some final) :
    word ∈ m'.language ↔ final = true := by
  change m'.acceptsById word = .ok true ↔ _
  rw [acceptsById_of_byId h, flagAfter_eq_ok hword hread hfinal, Except.ok.injEq]

theorem exists_byId_self (m : FiniteMachine A S) :
    ∃ m', byId m.initial m.transitions m.finals = .ok m' ∧ m'.language = m.language := by
  obtain ⟨m', h'⟩ := (m.byId_transitions_eq_ok_iff m.initial m.finals).2
    ⟨m.wellFormed.initial_lt, m.wellFormed.size_finals⟩
  refine ⟨m', h', Set.ext fun word => ?_⟩
  change m'.acceptsById word = .ok true ↔ m.acceptsById word = .ok true
  rw [acceptsById_of_byId h', acceptsById_eq_flagAfter m]

section

variable {finals₁ finals₂ : Column Bool} {m₁ m₂ : FiniteMachine Nat Nat}

open Classical in
/-- Flags that are combined index by index combine the answers to the words of letter ids. -/
theorem exists_byId_zipWith (h₁ : byId initial m.transitions finals₁ = .ok m₁)
    (h₂ : byId initial m.transitions finals₂ = .ok m₂) (op : Bool → Bool → Bool) :
    ∃ m', byId initial m.transitions (finals₁.zipWith op finals₂) = .ok m' ∧
      m'.language = m.letterWords ∩ {word | op (word ∈ m₁.language) (word ∈ m₂.language)} := by
  obtain ⟨hinitial, hsize₁⟩ := (m.byId_transitions_eq_ok_iff initial finals₁).1 ⟨m₁, h₁⟩
  obtain ⟨-, hsize₂⟩ := (m.byId_transitions_eq_ok_iff initial finals₂).1 ⟨m₂, h₂⟩
  have hsize : (finals₁.zipWith op finals₂).size = m.states.size := by
    rw [Column.size_zipWith, hsize₁, hsize₂, Nat.min_self]
  obtain ⟨m', h'⟩ := (m.byId_transitions_eq_ok_iff initial _).2 ⟨hinitial, hsize⟩
  refine ⟨m', h', Set.ext fun word => ?_⟩
  by_cases hword : word ∈ m.letterWords
  · obtain ⟨state, hlt, hread⟩ := m.exists_advance_eq_ok hinitial hword
    obtain ⟨a, ha⟩ := Column.exists_get?_eq_some (hsize₁ ▸ hlt)
    obtain ⟨b, hb⟩ := Column.exists_get?_eq_some (hsize₂ ▸ hlt)
    rw [mem_language_iff_of_byId h' hword hread (Column.get?_zipWith ha hb)]
    simp [hword, mem_language_iff_of_byId h₁ hword hread ha,
      mem_language_iff_of_byId h₂ hword hread hb]
  · exact iff_of_false (fun haccepted => hword (language_subset_letterWords h' haccepted))
      fun hboth => hword hboth.1

theorem exists_byId_not (h₁ : byId initial m.transitions finals₁ = .ok m₁) :
    ∃ m', byId initial m.transitions (finals₁.map not) = .ok m' ∧
      m'.language = m.letterWords \ m₁.language := by
  obtain ⟨m', h', hlanguage⟩ := exists_byId_zipWith h₁ h₁ fun a _ => !a
  rw [← Column.map_eq_zipWith] at h'
  refine ⟨m', h', hlanguage.trans ?_⟩
  ext word
  simp

theorem exists_byId_or (h₁ : byId initial m.transitions finals₁ = .ok m₁)
    (h₂ : byId initial m.transitions finals₂ = .ok m₂) :
    ∃ m', byId initial m.transitions (finals₁.zipWith or finals₂) = .ok m' ∧
      m'.language = m₁.language ∪ m₂.language := by
  obtain ⟨m', h', hlanguage⟩ := exists_byId_zipWith h₁ h₂ or
  have hsubset := Set.union_subset (language_subset_letterWords h₁) (language_subset_letterWords h₂)
  refine ⟨m', h', hlanguage.trans ?_⟩
  rw [← Set.inter_eq_right.2 hsubset]
  ext word
  simp

theorem exists_byId_and (h₁ : byId initial m.transitions finals₁ = .ok m₁)
    (h₂ : byId initial m.transitions finals₂ = .ok m₂) :
    ∃ m', byId initial m.transitions (finals₁.zipWith and finals₂) = .ok m' ∧
      m'.language = m₁.language ∩ m₂.language := by
  obtain ⟨m', h', hlanguage⟩ := exists_byId_zipWith h₁ h₂ and
  have hsubset : m₁.language ∩ m₂.language ⊆ m.letterWords :=
    Set.inter_subset_left.trans (language_subset_letterWords h₁)
  refine ⟨m', h', hlanguage.trans ?_⟩
  rw [← Set.inter_eq_right.2 hsubset]
  ext word
  simp

end

/-- Which machines over ids have the table of `m`, and what they accept. -/
structure SharesTable (m : FiniteMachine A S) : Prop where
  exists_byId_iff : ∀ initial finals, (∃ m', byId initial m.transitions finals = .ok m') ↔
    initial < m.states.size ∧ finals.size = m.states.size
  acceptsById_eq_error_iff : ∀ initial finals m', byId initial m.transitions finals = .ok m' →
    ∀ word err, m'.acceptsById word = .error err ↔ m.acceptsById word = .error err
  /-- A word that `m` can read gets the flag of the state that an execution of `m` reaches, put in
  the new initial state and reading the word there. -/
  acceptsById_eq : ∀ initial finals m', byId initial m.transitions finals = .ok m' →
    ∀ word answer, m.acceptsById word = .ok answer → ∀ start, ∃ state final,
      (do m.setStateId initial; m.readWordById word : Run Unit).run.run start = (.ok (), state) ∧
        finals.get? state = some final ∧ m'.acceptsById word = .ok final
  exists_self : ∃ m', byId m.initial m.transitions m.finals = .ok m' ∧ m'.language = m.language
  exists_not : ∃ m', byId m.initial m.transitions (m.finals.map not) = .ok m' ∧
    m'.language = m.letterWords \ m.language
  exists_or : ∀ initial finals₁ finals₂ m₁ m₂, byId initial m.transitions finals₁ = .ok m₁ →
    byId initial m.transitions finals₂ = .ok m₂ →
      ∃ m', byId initial m.transitions (finals₁.zipWith or finals₂) = .ok m' ∧
        m'.language = m₁.language ∪ m₂.language
  exists_and : ∀ initial finals₁ finals₂ m₁ m₂, byId initial m.transitions finals₁ = .ok m₁ →
    byId initial m.transitions finals₂ = .ok m₂ →
      ∃ m', byId initial m.transitions (finals₁.zipWith and finals₂) = .ok m' ∧
        m'.language = m₁.language ∩ m₂.language

/-- A table can be shared under other flags and from another initial state. What is read and what is
refused stays the same, and the flags decide about acceptance, so that operations on flags are
operations on languages. -/
theorem sharesTable (m : FiniteMachine A S) : m.SharesTable := by
  refine ⟨m.byId_transitions_eq_ok_iff, ?_, ?_, m.exists_byId_self, ?_,
    fun _ _ _ _ _ => exists_byId_or, fun _ _ _ _ _ => exists_byId_and⟩
  · intro initial finals m' h word err
    obtain ⟨hinitial, hsize⟩ := (m.byId_transitions_eq_ok_iff initial finals).1 ⟨m', h⟩
    rw [acceptsById_of_byId h, flagAfter_eq_error_iff hinitial hsize, acceptsById_eq_flagAfter,
      flagAfter_eq_error_iff m.wellFormed.initial_lt m.wellFormed.size_finals]
  · intro initial finals m' h word answer hanswer start
    obtain ⟨hinitial, hsize⟩ := (m.byId_transitions_eq_ok_iff initial finals).1 ⟨m', h⟩
    have hword :=
      forall_lt_of_flagAfter_eq_ok ((m.acceptsById_eq_flagAfter word).symm.trans hanswer)
    obtain ⟨state, final, hread, hfinal, hflag⟩ := exists_flagAfter_eq_ok hinitial hsize hword
    exact ⟨state, final, run_setStateId_readWordById hinitial hword hread start, hfinal,
      (acceptsById_of_byId h word).trans hflag⟩
  · obtain ⟨m₁, h₁, hlanguage⟩ := m.exists_byId_self
    rw [← hlanguage]
    exact exists_byId_not h₁

/-- With negated flags the machine for even numbers accepts the odd ones, and it still refuses a
word with a letter that it does not have. -/
theorem parity_sharesTable : parity.SharesTable ∧
    ∃ odd, byId 0 parity.transitions (parity.finals.map not) = .ok odd ∧
      [1] ∈ odd.language ∧ [1, 0] ∉ odd.language ∧ [2] ∉ odd.language := by
  have h := sharesTable parity
  obtain ⟨odd, hodd, hlanguage⟩ := h.exists_not
  have hone : [1] ∉ parity.language := by
    intro haccepted
    have hrejected : parity.acceptsById [1] = .ok false := by
      rw [acceptsById_eq_flagAfter]
      cbv
    cases hrejected.symm.trans haccepted
  have htwo : [1, 0] ∈ parity.language := by
    change parity.acceptsById [1, 0] = .ok true
    rw [acceptsById_eq_flagAfter]
    cbv
  have hletters : [1] ∈ parity.letterWords ∧ [2] ∉ parity.letterWords := by
    unfold letterWords
    decide +kernel
  refine ⟨h, odd, hodd, ?_⟩
  rw [hlanguage]
  exact ⟨⟨hletters.1, hone⟩, fun hmem => hmem.2 htwo, fun hmem => hletters.2 hmem.1⟩

end FiniteMachine

end TableMachines
