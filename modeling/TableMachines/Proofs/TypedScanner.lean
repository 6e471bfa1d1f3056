import TableMachines.Proofs.Language
import TableMachines.Proofs.Relabelling

/-!
# The scanner with named letters

The scanner of a finite machine with named letters has a name for its blank besides: letter `a` is
called `some a`, and the blank `none`. No name is given twice that way, so that this scanner exists
whenever the one by ids does (`exists_compile_eq_ok`), with the same tables
(`IsScanner.sameTables`). The letters keep their ids, and the blank has the next one
(`IsNamedScanner.idOf_some_iff`, `IsNamedScanner.idOf_none`). A word of letters of the machine runs
like its ids, and `compile_agrees` compares its answer with that of the machine, also where letters
are unknown and where the word contains the blank.
-/

namespace TableMachines

namespace TuringMachine

variable {A S : Type} [DecidableEq A] [Quoted A] {m : TuringMachine A S} {word : List A}

theorem accepts?_eq_acceptsById? {ids : List Nat}
    (h : ids.map m.alphabet.valueOf? = word.map some) (fuel : Nat) :
    m.accepts? fuel word = m.acceptsById? fuel ids := by
  rw [accepts?, acceptsById?, start_eq_startById h]

theorem accepts?_eq_error {err : MachineError} (h : m.start word = .error err) (fuel : Nat) :
    m.accepts? fuel word = .error err := by
  rw [accepts?, h]
  rfl

end TuringMachine

namespace FiniteMachine

variable {A S B T : Type} {m : FiniteMachine A S}

theorem IsScanner.sameTables {scanner : TuringMachine B T} {scanner₀ : TuringMachine Nat Nat}
    (h : m.IsScanner scanner) (h₀ : m.IsScanner scanner₀) : scanner.SameTables scanner₀ where
  blank_eq := h.blank_eq.trans h₀.blank_eq.symm
  inputs_eq := h.inputs_eq.trans h₀.inputs_eq.symm
  initial_eq := h.initial_eq.trans h₀.initial_eq.symm
  transitions_eq := h.transitions_eq.trans h₀.transitions_eq.symm

/-! ## The names of the letters -/

theorem nodup_scannerLetters (m : FiniteMachine A S) : m.scannerLetters.Nodup := by
  have hletters : m.alphabet.toList.Nodup := m.alphabet.nodup_values
  refine List.nodup_append.2 ⟨hletters.map (Option.some_injective A), List.nodup_singleton _, ?_⟩
  intro x hx y hy
  obtain ⟨letter, -, rfl⟩ := List.mem_map.1 hx
  obtain rfl := List.mem_singleton.1 hy
  exact Option.some_ne_none letter

theorem length_scannerLetters (m : FiniteMachine A S) :
    m.scannerLetters.length = m.alphabet.size + 1 := by
  simp [scannerLetters]

theorem some_mem_scannerLetters_iff {letter : A} :
    some letter ∈ m.scannerLetters ↔ letter ∈ m.alphabet.toList := by
  simp [scannerLetters]

theorem getElem?_scannerLetters_of_lt {id : Nat} (h : id < m.alphabet.size) :
    m.scannerLetters[id]? = (m.alphabet.valueOf? id).map some := by
  rw [scannerLetters, List.getElem?_append_left (by simpa using h), List.getElem?_map,
    Registry.valueOf?_eq_getElem?]

theorem getElem?_scannerLetters_size (m : FiniteMachine A S) :
    m.scannerLetters[m.alphabet.size]? = some none := by
  rw [scannerLetters, List.getElem?_append_right (by simp)]
  simp

/-- A scanner with the names of the machine for its letters and states, and `none` for the blank. -/
structure IsNamedScanner (m : FiniteMachine A S) (scanner : TuringMachine (Option A) S) : Prop
    extends m.IsScanner scanner where
  letters_eq : scanner.alphabet.toList = m.scannerLetters
  states_eq : scanner.states.toList = m.states.toList
  role_eq : scanner.alphabet.role = .letter

/-- A finite machine whose ids fit the cells compiles to a scanner with its names. -/
theorem exists_compile_eq_ok [DecidableEq A] [Quoted A] [DecidableEq S] [Quoted S]
    (h : m.FitsCells) : ∃ scanner, m.compile = .ok scanner ∧ m.IsNamedScanner scanner := by
  obtain ⟨letters, hletters⟩ := Registry.exists_ofList_eq_ok m.nodup_scannerLetters .letter
  have hnodup : m.states.toList.Nodup := m.states.nodup_values
  obtain ⟨states, hstates⟩ := Registry.exists_ofList_eq_ok hnodup .state
  have hlettersList := Registry.toList_of_ofList_eq_ok hletters
  have hstatesList := Registry.toList_of_ofList_eq_ok hstates
  have hlettersSize : letters.size = m.alphabet.size + 1 := by
    rw [← letters.length_toList, hlettersList, length_scannerLetters]
  have hstatesSize : states.size = m.states.size := by
    rw [← states.length_toList, hstatesList, Registry.length_toList]
  have hdraft := scannerDraft_wellFormed h.cellsInRange hlettersSize hstatesSize
  refine ⟨⟨_, (TuringMachine.Draft.fault?_eq_none_iff _).2 hdraft⟩, ?_, ?_⟩
  · rw [compile, TuringMachine.build_eq, mapError_eq_ok_iff]
    exact bind_eq_ok_iff.2 ⟨letters, hletters, bind_eq_ok_iff.2
      ⟨states, hstates, TuringMachine.ofDraft_of_wellFormed hdraft⟩⟩
  · refine ⟨⟨hlettersSize, hstatesSize, rfl, ?_, rfl, rfl⟩, hlettersList, hstatesList,
      Registry.role_of_ofList_eq_ok hletters⟩
    simp [scannerDraft, hlettersSize]

namespace IsNamedScanner

variable {scanner : TuringMachine (Option A) S} {letter : A} {id : Nat}

theorem valueOf?_eq (hm : m.IsNamedScanner scanner) (id : Nat) :
    scanner.alphabet.valueOf? id = m.scannerLetters[id]? := by
  rw [Registry.valueOf?_eq_getElem?, hm.letters_eq]

theorem valueOf?_of_lt (hm : m.IsNamedScanner scanner) (h : id < m.alphabet.size) :
    scanner.alphabet.valueOf? id = (m.alphabet.valueOf? id).map some := by
  rw [hm.valueOf?_eq, getElem?_scannerLetters_of_lt h]

theorem valueOf?_size (hm : m.IsNamedScanner scanner) :
    scanner.alphabet.valueOf? m.alphabet.size = some none := by
  rw [hm.valueOf?_eq, getElem?_scannerLetters_size]

/-- A name and its id in the machine make a name and its id in the scanner. -/
theorem valueOf?_eq_some_some_iff (hm : m.IsNamedScanner scanner) :
    scanner.alphabet.valueOf? id = some (some letter) ↔ m.alphabet.valueOf? id = some letter := by
  rcases Nat.lt_trichotomy id m.alphabet.size with hlt | rfl | hlt
  · rw [hm.valueOf?_of_lt hlt]
    simp
  · rw [hm.valueOf?_size, (m.alphabet.valueOf?_eq_none_iff _).2 (Nat.le_refl _)]
    simp
  · have hnone : scanner.alphabet.valueOf? id = none := by
      rw [Registry.valueOf?_eq_none_iff, hm.size_alphabet]
      omega
    rw [hnone, (m.alphabet.valueOf?_eq_none_iff _).2 (Nat.le_of_lt hlt)]
    simp

theorem valueOf?_eq_some_none_iff (hm : m.IsNamedScanner scanner) :
    scanner.alphabet.valueOf? id = some none ↔ id = m.alphabet.size := by
  constructor
  · intro h
    have hlt := Registry.lt_size_of_valueOf?_eq_some h
    rw [hm.size_alphabet] at hlt
    by_contra hne
    rw [hm.valueOf?_of_lt (by omega)] at h
    simp at h
  · rintro rfl
    exact hm.valueOf?_size

/-- A word of letters of the machine has the same ids in the scanner. -/
theorem names_some (hm : m.IsNamedScanner scanner) {word : List A} {ids : List Nat}
    (h : ids.map m.alphabet.valueOf? = word.map some) :
    ids.map scanner.alphabet.valueOf? = (word.map some).map some := by
  have hvalues : ids.map scanner.alphabet.valueOf? =
      ids.map fun id => (m.alphabet.valueOf? id).map some := by
    refine List.map_congr_left fun id hmem => ?_
    exact hm.valueOf?_of_lt (Registry.forall_lt_size_of_names h id hmem)
  calc ids.map scanner.alphabet.valueOf?
      = (ids.map m.alphabet.valueOf?).map (Option.map some) := by rw [hvalues, List.map_map]; rfl
    _ = (word.map some).map some := by rw [h, List.map_map, List.map_map]; rfl

variable [DecidableEq A] [Quoted A]

theorem idOf_some_iff (hm : m.IsNamedScanner scanner) :
    scanner.alphabet.idOf (some letter) = .ok id ↔ m.alphabet.idOf letter = .ok id := by
  rw [Registry.idOf_eq_ok_iff, Registry.idOf_eq_ok_iff, hm.valueOf?_eq_some_some_iff]

theorem idOf_none (hm : m.IsNamedScanner scanner) :
    scanner.alphabet.idOf none = .ok m.alphabet.size :=
  (Registry.idOf_eq_ok_iff _ _ _).2 hm.valueOf?_size

/-! ## Words of letters -/

theorem start_eq_error (hm : m.IsNamedScanner scanner) {word : List (Option A)} {x : Option A}
    (h : FirstOutside (· ∈ m.scannerLetters) word x) :
    scanner.start word = .error (.unknownLetter (quoted x)) := by
  rw [← hm.letters_eq] at h
  rw [TuringMachine.start_eq_error h, hm.role_eq]
  rfl

/-- On a word of known letters the scanner answers like the machine. -/
theorem exists_answer (hm : m.IsNamedScanner scanner) (hfits : m.FitsCells) {word : List A}
    (hword : ∀ letter ∈ word, letter ∈ m.alphabet.toList) :
    ∃ accepted e halt e', m.accepts word = .ok accepted ∧
      scanner.start (word.map some) = .ok e ∧ scanner.stepper.HaltsIn e halt e' ∧
      halt.isAccept = accepted ∧
      ∀ fuel > word.length, scanner.accepts? fuel (word.map some) = .ok (some accepted) := by
  obtain ⟨ids, hresolved⟩ := Registry.exists_mapM_idOf_eq_ok hword
  have hnames := Registry.mapM_idOf_eq_ok_iff.1 hresolved
  have hids := Registry.forall_lt_size_of_names hnames
  have hlength : ids.length = word.length := by
    simpa using congrArg List.length hnames
  obtain ⟨accepted, e', haccepts, hhalts, hrun⟩ := hm.exists_run hfits hids
  have hstart := hm.startById_eq_ok hids
  refine ⟨accepted, _, _, e', ?_, ?_, hhalts, Halt.isAccept_ite accepted, ?_⟩
  · rw [accepts_eq_acceptsById hnames, haccepts]
  · rw [TuringMachine.start_eq_startById (hm.names_some hnames), hstart]
  · intro fuel hfuel
    rw [TuringMachine.accepts?_eq_acceptsById? (hm.names_some hnames),
      TuringMachine.acceptsById?_eq_ok hstart (hrun fuel (hlength ▸ hfuel)), Halt.isAccept_ite]

/-- A word is refused with its first unknown letter, by the machine and by the scanner. -/
theorem refuses (hm : m.IsNamedScanner scanner) {word : List A}
    (h : FirstOutside (· ∈ m.alphabet.toList) word letter) :
    m.accepts word = .error (.invalidLetter (quoted letter)) ∧
      scanner.start (word.map some) = .error (.unknownLetter (quoted (some letter))) := by
  have hnamed : FirstOutside (· ∈ m.scannerLetters) (word.map some) (some letter) :=
    h.map fun _ => some_mem_scannerLetters_iff
  exact ⟨accepts_eq_error h, hm.start_eq_error hnamed⟩

/-- A word of known letters that contains the blank is refused for the blank, since all the other
letters are for input. -/
theorem start_of_none_mem (hm : m.IsNamedScanner scanner) {word : List (Option A)}
    (hnone : none ∈ word) (hword : ∀ x ∈ word, x ∈ m.scannerLetters) :
    scanner.start word = .error (.notInputLetter m.alphabet.size) := by
  rw [← hm.letters_eq] at hword
  obtain ⟨ids, hresolved⟩ := Registry.exists_mapM_idOf_eq_ok hword
  have hnames := Registry.mapM_idOf_eq_ok_iff.1 hresolved
  rw [TuringMachine.start_eq_startById hnames]
  have hinput (id : Nat) : scanner.inputs.get? id = some true ↔ id < m.alphabet.size := by
    rw [← TuringMachine.isInputById_iff, hm.isInputById_iff]
  refine TuringMachine.startById_eq_error (firstOutside_of_mem ?_ ?_ ?_)
  · obtain ⟨id, hid, hvalue⟩ := List.mem_map.1 (hnames ▸ List.mem_map_of_mem hnone)
    rwa [← hm.valueOf?_eq_some_none_iff.1 hvalue]
  · rw [hinput]
    exact Nat.lt_irrefl _
  · intro id hid hnot
    have hlt := Registry.forall_lt_size_of_names hnames id hid
    rw [hm.size_alphabet] at hlt
    rw [hinput] at hnot
    omega

end IsNamedScanner

/-! ## The two compilations -/

variable [DecidableEq A] [Quoted A] [DecidableEq S] [Quoted S]

/-- While its ids fit 32-bit cells, a finite machine compiles with its names as well as by ids, and
the two scanners have the same tables. Letters and states keep their ids, and the blank has the id
after the letters. On a word of known letters the run of the scanner returns with the answer of the
machine; with an unknown letter both fail, for the first one. A word that contains the blank is
refused for its first unknown letter, wherever it stands, and for the blank when there is none. -/
theorem compile_agrees (hstates : m.states.size ≤ 2147483648)
    (hletters : m.alphabet.size < 2147483648) :
    ∃ scanner scanner₀, m.compile = .ok scanner ∧ m.compileById = .ok scanner₀ ∧
      scanner.SameTables scanner₀ ∧
      scanner.alphabet.toList = m.alphabet.toList.map some ++ [none] ∧
      (∀ letter id, scanner.alphabet.idOf (some letter) = .ok id ↔
        m.alphabet.idOf letter = .ok id) ∧
      scanner.alphabet.idOf none = .ok m.alphabet.size ∧
      scanner.states.toList = m.states.toList ∧
      (∀ word : List A,
        ((∀ letter ∈ word, letter ∈ m.alphabet.toList) →
          ∃ accepted e halt e', m.accepts word = .ok accepted ∧
            scanner.start (word.map some) = .ok e ∧ scanner.stepper.HaltsIn e halt e' ∧
            halt.isAccept = accepted ∧
            ∀ fuel > word.length, scanner.accepts? fuel (word.map some) = .ok (some accepted)) ∧
        ∀ letter, FirstOutside (· ∈ m.alphabet.toList) word letter →
          m.accepts word = .error (.invalidLetter (quoted letter)) ∧
          ∀ fuel, scanner.accepts? fuel (word.map some) =
            .error (.unknownLetter (quoted (some letter)))) ∧
      ∀ word : List (Option A), none ∈ word →
        (∀ x, FirstOutside (· ∈ scanner.alphabet.toList) word x →
          ∀ fuel, scanner.accepts? fuel word = .error (.unknownLetter (quoted x))) ∧
        ((∀ x ∈ word, x ∈ scanner.alphabet.toList) →
          ∀ fuel, scanner.accepts? fuel word = .error (.notInputLetter m.alphabet.size)) := by
  have hfits : m.FitsCells := ⟨hstates, hletters⟩
  obtain ⟨scanner, hcompile, hm⟩ := exists_compile_eq_ok hfits
  obtain ⟨scanner₀, hcompile₀, hm₀⟩ := exists_compileById_eq_ok hfits
  refine ⟨scanner, scanner₀, hcompile, hcompile₀, hm.sameTables hm₀, hm.letters_eq,
    fun _ _ => hm.idOf_some_iff, hm.idOf_none, hm.states_eq, ?_, ?_⟩
  · intro word
    refine ⟨hm.exists_answer hfits, ?_⟩
    intro letter hletter
    obtain ⟨hmachine, hstart⟩ := hm.refuses hletter
    exact ⟨hmachine, TuringMachine.accepts?_eq_error hstart⟩
  · intro word hnone
    rw [hm.letters_eq]
    constructor
    · intro x hx
      exact TuringMachine.accepts?_eq_error (hm.start_eq_error hx)
    · intro hword
      exact TuringMachine.accepts?_eq_error (hm.start_of_none_mem hnone hword)

theorem nodup_mark_gap : ([some 7, none] : List (Option Nat)).Nodup := by simp

/-- Reads words with gaps: the letters are the mark `some 7` and `none` for a gap. It accepts when
the number of gaps is even. -/
def gapParity : FiniteMachine (Option Nat) Nat where
  alphabet := ⟨#[some 7, none], .letter, false, nodup_mark_gap⟩
  states := .identity 2 .state
  initial := 0
  transitions := .ofFn 2 2 fun state letter => (state + letter) % 2
  finals := .ofList [true, false]
  fault?_eq_none := by decide +kernel

/-- The letters of this machine are options already. A gap becomes `some none` and is told from the
blank; a word with the blank and an unknown mark behind it is refused for the mark. -/
theorem gapParity_compile_agrees :
    gapParity.states.size ≤ 2147483648 ∧ gapParity.alphabet.size < 2147483648 ∧
      ∃ scanner scanner₀, gapParity.compile = .ok scanner ∧ gapParity.compileById = .ok scanner₀ ∧
        scanner.SameTables scanner₀ ∧
        scanner.alphabet.idOf (some none) = .ok 1 ∧ scanner.alphabet.idOf none = .ok 2 ∧
        gapParity.accepts [none, some 7, none] = .ok true ∧
        (∀ fuel > 3, scanner.accepts? fuel [some none, some (some 7), some none] =
          .ok (some true)) ∧
        (∀ fuel, scanner.accepts? fuel [some none, none, some (some 8)] =
          .error (.unknownLetter "Some(Some(8))")) ∧
        ∀ fuel, scanner.accepts? fuel [some none, none] = .error (.notInputLetter 2) := by
  have hstates : gapParity.states.size ≤ 2147483648 := by decide +kernel
  have hletters : gapParity.alphabet.size < 2147483648 := by decide +kernel
  obtain ⟨scanner, scanner₀, hcompile, hcompile₀, hsame, hnames, hid, hnone, -, hword, hblank⟩ :=
    compile_agrees hstates hletters
  have hnames : scanner.alphabet.toList = [some (some 7), some none, none] := hnames
  refine ⟨hstates, hletters, scanner, scanner₀, hcompile, hcompile₀, hsame,
    (hid none 1).2 (by rfl), hnone, ?_⟩
  obtain ⟨accepted, e, halt, e', haccepts, -, -, -, hrun⟩ :=
    (hword [none, some 7, none]).1 (by simp [gapParity, Registry.toList])
  have htrue : (gapParity.accepts [none, some 7, none]).toOption = some true := by decide +kernel
  obtain rfl : accepted = true := by
    rw [haccepts] at htrue
    exact Option.some.inj htrue
  refine ⟨haccepts, hrun, ?_, ?_⟩
  · refine (hblank _ (by simp)).1 (some (some 8)) ⟨[some none, none], [], rfl, ?_, ?_⟩
    · simp [hnames]
    · simp [hnames]
  · exact (hblank _ (by simp)).2 (by simp [hnames])

end FiniteMachine

end TableMachines
