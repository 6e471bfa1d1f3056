import Mathlib.Computability.Language
import TableMachines.Proofs.BuildFinite
import TableMachines.Proofs.Language
import TableMachines.Proofs.RowOrder

/-!
# Deciding languages

A finite machine decides a language over some letters when it accepts the words of the language,
rejects the other words over these letters, and refuses every word with another letter in it
(`Decides`).

What a state stands for is a property of the words that lead to it. The states of a machine have
such meanings when the empty word has that of the initial state and every transition keeps them
(`Tracks`); then each word has the meaning of the state that it leads to (`Tracks.advance`). When
the final states are the ones whose meaning puts a word into a language, the machine decides the
language (`Tracks.decides`); for a machine that is built from a written table this is a check of its
cells and flags (`decides_of_build`). The scanner of a machine that decides a language decides the
same language on the ids of words (`Decides.exists_scanner_run`).
-/

namespace TableMachines

namespace FiniteMachine

variable {A S B T : Type} {m : FiniteMachine A S} {scanner : TuringMachine B T}
  {letters word : List A} {language : Language A} {meaning : Nat → List A → Prop}

/-! ## What states stand for -/

/-- The empty word has the meaning of the initial state, and every transition leads from words with
the meaning of its state to words with the meaning of its target. -/
structure Tracks (m : FiniteMachine A S) (meaning : Nat → List A → Prop) : Prop where
  start : meaning m.initial []
  step : ∀ {state id target letter word}, meaning state word →
    m.alphabet.valueOf? id = some letter → m.transitionById state id = .ok target →
    meaning target (word ++ [letter])

theorem Tracks.advance (hm : m.Tracks meaning) {state target : Nat} {ids : List Nat}
    {before : List A} (hbefore : meaning state before)
    (hnames : ids.map m.alphabet.valueOf? = word.map some)
    (hread : m.advance state ids = .ok target) : meaning target (before ++ word) := by
  induction ids generalizing before word state with
  | nil =>
    obtain rfl : word = [] := by simpa using hnames.symm
    cases hread
    simpa using hbefore
  | cons id ids ih =>
    cases word with
    | nil => cases hnames
    | cons letter word =>
      obtain ⟨hletter, hnames⟩ := List.cons.inj hnames
      rw [advance_cons] at hread
      obtain ⟨next, hnext, hread⟩ := bind_eq_ok_iff.1 hread
      have h := ih (hm.step hbefore hletter hnext) hnames hread
      rwa [List.append_assoc] at h

/-! ## Deciding -/

variable [DecidableEq A] [Quoted A]

/-- What a machine that decides a language says of a word. -/
structure DecidesWord (m : FiniteMachine A S) (letters : List A) (language : Language A)
    (word : List A) : Prop where
  accepts_iff : m.accepts word = .ok true ↔ (∀ letter ∈ word, letter ∈ letters) ∧ word ∈ language
  rejects_iff : m.accepts word = .ok false ↔ (∀ letter ∈ word, letter ∈ letters) ∧ word ∉ language
  refuses_iff : (∃ err, m.accepts word = .error err) ↔ ∃ letter ∈ word, letter ∉ letters
  /-- The first letter that is none of the letters is the one reported. -/
  refusal : ∀ letter, FirstOutside (· ∈ letters) word letter →
    m.accepts word = .error (.invalidLetter (quoted letter))

/-- The machine decides the language over the letters: it says of every word what it should. -/
def Decides (m : FiniteMachine A S) (letters : List A) (language : Language A) : Prop :=
  ∀ word, m.DecidesWord letters language word

theorem DecidesWord.of_answer {final : Bool} (hword : ∀ letter ∈ word, letter ∈ letters)
    (hanswer : m.accepts word = .ok final) (hfinal : final = true ↔ word ∈ language) :
    m.DecidesWord letters language word where
  accepts_iff := by rw [hanswer, Except.ok.injEq, hfinal, and_iff_right hword]
  rejects_iff := by
    rw [hanswer, Except.ok.injEq, and_iff_right hword, ← hfinal, Bool.not_eq_true]
  refuses_iff := by simpa [hanswer] using hword
  refusal letter hfirst := absurd (hword letter hfirst.mem) hfirst.not

theorem DecidesWord.of_refusal {letter : A} (hfirst : FirstOutside (· ∈ letters) word letter)
    (hrefusal : ∀ letter, FirstOutside (· ∈ letters) word letter →
      m.accepts word = .error (.invalidLetter (quoted letter))) :
    m.DecidesWord letters language word := by
  have hnot : ¬ ∀ letter ∈ word, letter ∈ letters := fun h => hfirst.not (h letter hfirst.mem)
  have herror := hrefusal letter hfirst
  refine ⟨?_, ?_, ?_, hrefusal⟩
  · simp [herror, hnot]
  · simp [herror, hnot]
  · simpa [herror] using hnot

/-- A word of known letters is answered with the flag of a state whose meaning it has. -/
theorem Tracks.exists_accepts_eq_ok (hm : m.Tracks meaning)
    (hword : ∀ letter ∈ word, letter ∈ m.alphabet.toList) :
    ∃ state final, meaning state word ∧ m.finals.get? state = some final ∧
      m.accepts word = .ok final := by
  obtain ⟨ids, hids⟩ := Registry.exists_mapM_idOf_eq_ok hword
  have hnames := Registry.mapM_idOf_eq_ok_iff.1 hids
  have hlt := Registry.forall_lt_size_of_names hnames
  obtain ⟨state, hstate, hread⟩ := m.exists_stateIdAfterById_eq_ok hlt
  obtain ⟨final, hfinal⟩ := m.exists_isFinalById_eq_ok hstate
  refine ⟨state, final, ?_, (m.finals.get_eq_ok_iff state final).1 hfinal, ?_⟩
  · rw [stateIdAfterById_of_forall hlt] at hread
    exact hm.advance hm.start hnames hread
  · rw [accepts_eq_acceptsById hnames]
    exact acceptsById_eq_ok hread hfinal

theorem Tracks.decides (hm : m.Tracks meaning) (hfinal : ∀ {state final word}, meaning state word →
    m.finals.get? state = some final → (final = true ↔ word ∈ language)) :
    m.Decides m.alphabet.toList language := by
  intro word
  rcases forall_or_exists_firstOutside (· ∈ m.alphabet.toList) word with hword | ⟨letter, hfirst⟩
  · obtain ⟨state, final, hmeaning, hflag, hanswer⟩ := hm.exists_accepts_eq_ok hword
    exact .of_answer hword hanswer (hfinal hmeaning hflag)
  · exact .of_refusal hfirst fun _ => accepts_eq_error

/-- A machine that is built from a written table decides a language when the states have meanings
such that the cells of the table keep them and the flags say which of them are in the language. -/
theorem decides_of_build [DecidableEq S] [Quoted S] {states : Source S} {initial rows cols : Nat}
    {cells : Vector (Vector Nat cols) rows} {flags : List Bool} (meaning : Nat → List A → Prop)
    (h : build (.listed letters) states initial (.ofVectors cells) (.ofList flags) = .ok m)
    (hstart : meaning initial [])
    (hstep : ∀ {state id target : Nat} {entries letter word}, meaning state word →
      (Table.lines cells)[state]? = some entries → letters[id]? = some letter →
      entries[id]? = some target → meaning target (word ++ [letter]))
    (hfinal : ∀ {state : Nat} {final word}, meaning state word → flags[state]? = some final →
      (final = true ↔ word ∈ language)) : m.Decides letters language := by
  obtain ⟨hletters, hinitial, htransitions, hflags⟩ := parts_of_build _ _ _ _ _ h
  change m.alphabet.toList = letters at hletters
  have hm : m.Tracks meaning := by
    refine ⟨hinitial.symm ▸ hstart, ?_⟩
    intro state id target letter word hmeaning hletter htarget
    rw [Registry.valueOf?_eq_getElem?, hletters] at hletter
    rw [transitionById, htransitions, Table.get_ofVectors_eq_ok_iff] at htarget
    obtain ⟨entries, hentries, htarget⟩ := htarget
    exact hstep hmeaning hentries hletter htarget
  rw [← hletters]
  apply hm.decides
  intro state final word hmeaning hflag
  rw [hflags, Column.get?_eq_getElem?] at hflag
  exact hfinal hmeaning hflag

/-! ## Scanners -/

/-- On the ids of a word the scanner halts, and accepts when the word is in the language that the
finite machine decides. -/
theorem Decides.exists_scanner_run (hm : m.Decides letters language) (hscan : m.IsScanner scanner)
    (hfits : m.FitsCells) {ids : List Nat} (hnames : ids.map m.alphabet.valueOf? = word.map some) :
    ∃ e halt e', scanner.startById ids = .ok e ∧ scanner.stepper.HaltsIn e halt e' ∧
      (halt = .accept ↔ word ∈ language) ∧
      ∀ fuel > ids.length, scanner.acceptsById? fuel ids = .ok (some halt.isAccept) := by
  have hlt := Registry.forall_lt_size_of_names hnames
  have hstart := hscan.startById_eq_ok hlt
  obtain ⟨accepted, e', haccepts, hhalts, hrun⟩ := hscan.exists_run hfits hlt
  rw [← accepts_eq_acceptsById hnames] at haccepts
  refine ⟨_, _, e', hstart, hhalts, ?_, ?_⟩
  · cases accepted with
    | false => simpa using ((hm word).rejects_iff.1 haccepts).2
    | true => simpa using ((hm word).accepts_iff.1 haccepts).2
  · intro fuel hfuel
    exact TuringMachine.acceptsById?_eq_ok hstart (hrun fuel hfuel)

end FiniteMachine

end TableMachines
