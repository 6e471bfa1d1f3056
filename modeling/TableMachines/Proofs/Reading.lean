import TableMachines.FiniteMachine.Execution
import TableMachines.Proofs.Resolving

/-!
# Reading words

What finite machines do with a word of letter ids. A word is read when all its letters are in the
alphabet, and refused with its first letter outside otherwise (`checkLetterIds_eq_ok`,
`checkLetterIds_eq_error`). From a state of the machine the table leads through every such word to a
state of the machine (`exists_advance_eq_ok`), part after part (`advance_append`). A word of names
is read like its ids when all its letters are known (`accepts_eq_acceptsById`), and refused with its
first unknown letter otherwise (`accepts_eq_error`).
-/

namespace TableMachines

namespace FiniteMachine

variable {A S : Type} {m : FiniteMachine A S} {word : List Nat} {state : Nat}

theorem checkLetterId_of_lt {letter : Nat} (h : letter < m.alphabet.size) :
    m.checkLetterId letter = .ok letter := by
  rw [checkLetterId, if_pos h]

theorem checkLetterId_of_le {letter : Nat} (h : ¬ letter < m.alphabet.size) :
    m.checkLetterId letter = .error (.invalidLetter (toString letter)) := by
  rw [checkLetterId, if_neg h, quoted_nat]

theorem checkLetterIds_eq_ok (h : ∀ letter ∈ word, letter < m.alphabet.size) :
    m.checkLetterIds word = .ok word := by
  refine mapM_eq_ok_iff.2 (List.map_congr_left ?_)
  intro letter hmem
  exact checkLetterId_of_lt (h letter hmem)

theorem checkLetterIds_of_firstOutside {letter : Nat}
    (h : FirstOutside (· < m.alphabet.size) word letter) :
    m.checkLetterIds word = .error (.invalidLetter (toString letter)) :=
  h.mapM_eq_error (fun id hid => ⟨id, checkLetterId_of_lt hid⟩) (checkLetterId_of_le h.not)

theorem checkLetterIds_eq_error {letter : Nat}
    (h : word.find? (m.alphabet.size ≤ ·) = some letter) :
    m.checkLetterIds word = .error (.invalidLetter (toString letter)) :=
  checkLetterIds_of_firstOutside ((firstOutside_iff_find? (by simp)).2 h)

theorem advance_cons (m : FiniteMachine A S) (state letter : Nat) (word : List Nat) :
    m.advance state (letter :: word) = (do m.advance (← m.transitionById state letter) word) :=
  List.foldlM_cons

theorem advance_append (m : FiniteMachine A S) (state : Nat) (u v : List Nat) :
    m.advance state (u ++ v) = (do m.advance (← m.advance state u) v) :=
  List.foldlM_append

theorem exists_advance_eq_ok (hs : state < m.states.size)
    (h : ∀ letter ∈ word, letter < m.alphabet.size) :
    ∃ target < m.states.size, m.advance state word = .ok target := by
  induction word generalizing state with
  | nil => exact ⟨state, hs, rfl⟩
  | cons letter word ih =>
    obtain ⟨hletter, hrest⟩ := List.forall_mem_cons.1 h
    obtain ⟨next, hnext, hstep⟩ := m.exists_transitionById_eq_ok hs hletter
    obtain ⟨target, htarget, hadvance⟩ := ih hnext hrest
    refine ⟨target, htarget, ?_⟩
    rw [advance_cons, hstep]
    exact hadvance

theorem stateIdAfterById_of_forall (h : ∀ letter ∈ word, letter < m.alphabet.size) :
    m.stateIdAfterById word = m.advance m.initial word := by
  rw [stateIdAfterById_eq, checkLetterIds_eq_ok h]
  rfl

/-- One letter more of the word is one more transition. -/
theorem stateIdAfterById_take_succ (h : ∀ letter ∈ word, letter < m.alphabet.size) {k : Nat}
    (hk : k < word.length) (hread : m.stateIdAfterById (word.take k) = .ok state) :
    m.stateIdAfterById (word.take (k + 1)) = m.transitionById state word[k] := by
  have htake : ∀ n, ∀ letter ∈ word.take n, letter < m.alphabet.size := by
    intro n letter hmem
    exact h letter (List.mem_of_mem_take hmem)
  rw [stateIdAfterById_of_forall (htake k)] at hread
  rw [stateIdAfterById_of_forall (htake (k + 1)), List.take_succ_eq_append_getElem hk,
    advance_append, hread]
  change m.advance state [word[k]] = _
  rw [advance_cons]
  cases m.transitionById state word[k] <;> rfl

theorem stateIdAfterById_eq_error {letter : Nat}
    (h : word.find? (m.alphabet.size ≤ ·) = some letter) :
    m.stateIdAfterById word = .error (.invalidLetter (toString letter)) := by
  rw [stateIdAfterById_eq, checkLetterIds_eq_error h]
  rfl

theorem exists_stateIdAfterById_eq_ok (h : ∀ letter ∈ word, letter < m.alphabet.size) :
    ∃ target < m.states.size, m.stateIdAfterById word = .ok target := by
  rw [stateIdAfterById_of_forall h]
  exact exists_advance_eq_ok m.wellFormed.initial_lt h

theorem exists_isFinalById_eq_ok (hs : state < m.states.size) :
    ∃ final, m.isFinalById state = .ok final := by
  obtain ⟨final, hfinal⟩ := Column.exists_get?_eq_some (m.wellFormed.size_finals.symm ▸ hs)
  exact ⟨final, (m.finals.get_eq_ok_iff state final).2 hfinal⟩

/-! ## Words of names -/

section

variable [DecidableEq A] [Quoted A] {names : List A}

theorem letterId_eq_ok_iff (m : FiniteMachine A S) (letter : A) (id : Nat) :
    m.letterId letter = .ok id ↔ m.alphabet.valueOf? id = some letter := by
  rw [letterId, mapError_eq_ok_iff, Registry.idOf_eq_ok_iff]

theorem exists_letterId_eq_ok {letter : A} (h : letter ∈ m.alphabet.toList) :
    ∃ id, m.letterId letter = .ok id := by
  obtain ⟨id, hid⟩ := Registry.exists_idOf_eq_ok h
  exact ⟨id, mapError_eq_ok_iff.2 hid⟩

theorem letterId_eq_error {letter : A} (h : letter ∉ m.alphabet.toList) :
    m.letterId letter = .error (.invalidLetter (quoted letter)) := by
  rw [letterId, Registry.idOf_eq_error h]
  rfl

theorem letterIds_eq_ok_iff :
    m.letterIds names = .ok word ↔ word.map m.alphabet.valueOf? = names.map some :=
  Registry.mapM_eq_ok_iff_of_lookup m.letterId_eq_ok_iff

theorem letterIds_eq_error {letter : A} (h : FirstOutside (· ∈ m.alphabet.toList) names letter) :
    m.letterIds names = .error (.invalidLetter (quoted letter)) :=
  h.mapM_eq_error (fun _ => exists_letterId_eq_ok) (letterId_eq_error h.not)

theorem stateIdAfter_eq_stateIdAfterById (h : word.map m.alphabet.valueOf? = names.map some) :
    m.stateIdAfter names = m.stateIdAfterById word := by
  rw [stateIdAfter_eq, letterIds_eq_ok_iff.2 h,
    stateIdAfterById_of_forall (Registry.forall_lt_size_of_names h)]
  rfl

/-- A word of names is accepted or not as its ids are. -/
theorem accepts_eq_acceptsById (h : word.map m.alphabet.valueOf? = names.map some) :
    m.accepts names = m.acceptsById word := by
  rw [accepts, acceptsById, stateIdAfter_eq_stateIdAfterById h]

theorem accepts_eq_error {letter : A} (h : FirstOutside (· ∈ m.alphabet.toList) names letter) :
    m.accepts names = .error (.invalidLetter (quoted letter)) := by
  rw [accepts, stateIdAfter_eq, letterIds_eq_error h]
  rfl

end

end FiniteMachine

end TableMachines
