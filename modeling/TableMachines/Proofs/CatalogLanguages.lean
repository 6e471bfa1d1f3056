import Mathlib.Algebra.Group.Nat.Even
import Mathlib.Data.Nat.Digits.Defs
import TableMachines.Catalog
import TableMachines.Proofs.Deciding

/-!
# The languages of the catalog

The finite machines of the catalog decide the languages that they are described by, and the compiled
one among them does so as a Turing machine (`machines_decide_languages`). Each proof says what the
states stand for: `binaryParity` is in the state of the parity of the number read so far, and the
three states of `aStarBStar` have read only `a`s, a word with a `b` and no `a` after one, and
anything else. How these properties change with one letter more is said by `mem_onlyAs_concat_iff`,
`mem_asThenBs_concat_iff` and `binaryNumber_concat`.
-/

namespace TableMachines

namespace Catalog

open FiniteMachine

/-! ## `a`s and then `b`s -/

/-- The words of `a`s, the empty word included. -/
def onlyAs : Language Char := {word | ∃ i, word = List.replicate i 'a'}

/-- The words of `a`s followed by `b`s, of either of which there may be none. -/
def asThenBs : Language Char :=
  {word | ∃ i j, word = List.replicate i 'a' ++ List.replicate j 'b'}

theorem asThenBs_of_onlyAs {word : List Char} (h : word ∈ onlyAs) : word ∈ asThenBs := by
  obtain ⟨i, rfl⟩ := h
  exact ⟨i, 0, by simp⟩

theorem mem_onlyAs_concat_iff {word : List Char} {letter : Char} :
    word ++ [letter] ∈ onlyAs ↔ word ∈ onlyAs ∧ letter = 'a' := by
  constructor
  · rintro ⟨i, h⟩
    cases i with
    | zero => simp at h
    | succ i =>
      rw [List.replicate_succ'] at h
      obtain ⟨hword, hletter⟩ := List.append_inj' h rfl
      exact ⟨⟨i, hword⟩, by simpa using hletter⟩
  · rintro ⟨⟨i, rfl⟩, rfl⟩
    exact ⟨i + 1, List.replicate_succ'.symm⟩

theorem mem_asThenBs_concat_iff {word : List Char} {letter : Char} :
    word ++ [letter] ∈ asThenBs ↔
      word ∈ onlyAs ∧ letter = 'a' ∨ word ∈ asThenBs ∧ letter = 'b' := by
  constructor
  · rintro ⟨i, j, h⟩
    cases j with
    | zero =>
      left
      apply mem_onlyAs_concat_iff.1
      exact ⟨i, by simpa using h⟩
    | succ j =>
      right
      rw [List.replicate_succ', ← List.append_assoc] at h
      obtain ⟨hword, hletter⟩ := List.append_inj' h rfl
      exact ⟨⟨i, j, hword⟩, by simpa using hletter⟩
  · rintro (h | ⟨⟨i, j, rfl⟩, rfl⟩)
    · exact asThenBs_of_onlyAs (mem_onlyAs_concat_iff.2 h)
    · exact ⟨i, j + 1, by rw [List.replicate_succ', List.append_assoc]⟩

/-- What the states of `aStarBStar` say of the word read. -/
def Seen : Nat → List Char → Prop
  | 0, word => word ∈ onlyAs
  | 1, word => word ∈ asThenBs ∧ word ∉ onlyAs
  | _, word => word ∉ asThenBs

theorem exists_aStarBStar_decides :
    ∃ m, aStarBStar = .ok m ∧ m.Decides ['a', 'b'] asThenBs := by
  have hbuilt : errorOf? aStarBStar = none := by decide +kernel
  obtain ⟨m, hm⟩ := errorOf?_eq_none_iff.1 hbuilt
  refine ⟨m, hm, decides_of_build Seen hm ⟨0, rfl⟩ ?_ ?_⟩
  · intro state id target entries letter word hword hentries hletter htarget
    -- One case for each cell; the last two are outside the table.
    match state, id with
    | 0, 0 =>
      cases hentries; cases hletter; cases htarget
      exact mem_onlyAs_concat_iff.2 ⟨hword, rfl⟩
    | 0, 1 =>
      cases hentries; cases hletter; cases htarget
      simpa [Seen, mem_onlyAs_concat_iff, mem_asThenBs_concat_iff] using asThenBs_of_onlyAs hword
    | 1, 0 =>
      cases hentries; cases hletter; cases htarget
      simpa [Seen, mem_asThenBs_concat_iff] using hword.2
    | 1, 1 =>
      cases hentries; cases hletter; cases htarget
      simpa [Seen, mem_onlyAs_concat_iff, mem_asThenBs_concat_iff] using hword.1
    | 2, 0 =>
      cases hentries; cases hletter; cases htarget
      simpa [Seen, mem_asThenBs_concat_iff] using mt asThenBs_of_onlyAs hword
    | 2, 1 =>
      cases hentries; cases hletter; cases htarget
      simpa [Seen, mem_asThenBs_concat_iff] using hword
    | state + 3, _ => cases hentries
    | _, id + 2 => cases hletter
  · intro state final word hword hflag
    match state with
    | 0 =>
      cases hflag
      simpa using asThenBs_of_onlyAs hword
    | 1 =>
      cases hflag
      simpa using hword.1
    | 2 =>
      cases hflag
      simpa [Seen] using hword
    | state + 3 => cases hflag

/-! ## Binary numbers -/

/-- The number that binary digits denote, the most significant one first. -/
def binaryNumber (digits : List Nat) : Nat := Nat.ofDigits 2 digits.reverse

/-- The number that a digit denotes. -/
def digit (letter : Char) : Nat := letter.toNat - '0'.toNat

/-- The words of digits whose number has a property. -/
def numerals (p : Nat → Prop) : Language Char := {word | p (binaryNumber (word.map digit))}

theorem binaryNumber_concat (digits : List Nat) (d : Nat) :
    binaryNumber (digits ++ [d]) = 2 * binaryNumber digits + d := by
  rw [binaryNumber, List.reverse_append, List.reverse_singleton, List.singleton_append,
    Nat.ofDigits_cons, Nat.add_comm]
  rfl

theorem exists_binaryParity_decides {evenFinal oddFinal : Bool} {p : Nat → Prop}
    (hp : ∀ n, p n ↔ [evenFinal, oddFinal][n % 2]? = some true) :
    ∃ m, binaryParity evenFinal oddFinal = .ok m ∧ m.Decides ['0', '1'] (numerals p) := by
  have hbuilt : errorOf? (binaryParity evenFinal oddFinal) = none := by
    cases evenFinal <;> cases oddFinal <;> decide +kernel
  obtain ⟨m, hm⟩ := errorOf?_eq_none_iff.1 hbuilt
  refine ⟨m, hm, decides_of_build
    (fun state word => state = binaryNumber (word.map digit) % 2) hm rfl ?_ ?_⟩
  · intro state id target entries letter word hword hentries hletter htarget
    have htarget : target = digit letter % 2 := by
      match state, id with
      | 0, 0 | 0, 1 | 1, 0 | 1, 1 => cases hentries; cases hletter; cases htarget; rfl
      | state + 2, _ => cases hentries
      | _, id + 2 => cases hletter
    simp only [List.map_append, List.map_singleton, binaryNumber_concat]
    omega
  · rintro _ final word rfl hflag
    have hmem : word ∈ numerals p ↔ p (binaryNumber (word.map digit)) := Iff.rfl
    rw [hmem, hp, hflag, Option.some.injEq]

theorem odd_iff_getElem? (n : Nat) : Odd n ↔ [false, true][n % 2]? = some true := by
  rcases Nat.mod_two_eq_zero_or_one n with h | h <;> simp [Nat.odd_iff, h]

theorem even_iff_getElem? (n : Nat) : Even n ↔ [true, false][n % 2]? = some true := by
  rcases Nat.mod_two_eq_zero_or_one n with h | h <;> simp [Nat.even_iff, h]

/-- The word of digits that a word of letter ids stands for. -/
def bits (ids : List Nat) : List Char := ids.map fun id => if id = 0 then '0' else '1'

theorem names_bits {m : FiniteMachine Char String} {evenFinal oddFinal : Bool}
    (hm : binaryParity evenFinal oddFinal = .ok m) {ids : List Nat}
    (hids : ∀ id ∈ ids, id = 0 ∨ id = 1) :
    ids.map m.alphabet.valueOf? = (bits ids).map some := by
  obtain ⟨hletters, -⟩ := parts_of_build _ _ _ _ _ hm
  rw [bits, List.map_map]
  apply List.map_congr_left
  intro id hmem
  rw [Registry.valueOf?_eq_getElem?, hletters]
  rcases hids id hmem with rfl | rfl <;> rfl

theorem map_digit_bits {ids : List Nat} (hids : ∀ id ∈ ids, id = 0 ∨ id = 1) :
    (bits ids).map digit = ids := by
  rw [bits, List.map_map]
  refine (List.map_congr_left fun id hmem => ?_).trans (List.map_id ids)
  rcases hids id hmem with rfl | rfl <;> rfl

theorem fitsCells_of_binaryParity {m : FiniteMachine Char String} {evenFinal oddFinal : Bool}
    (hm : binaryParity evenFinal oddFinal = .ok m) : m.FitsCells := by
  obtain ⟨-, -, htransitions, -⟩ := parts_of_build _ _ _ _ _ hm
  have hstates : m.states.size = 2 := by rw [← m.wellFormed.rows_eq, htransitions]; rfl
  have hletters : m.alphabet.size = 2 := by rw [← m.wellFormed.cols_eq, htransitions]; rfl
  constructor
  · omega
  · omega

theorem exists_oddBinaryNumberScanner_decides :
    ∃ scanner, oddBinaryNumberScanner = .ok scanner ∧
      ∀ ids : List Nat, (∀ id ∈ ids, id = 0 ∨ id = 1) →
        ∃ e halt e', scanner.startById ids = .ok e ∧ scanner.stepper.HaltsIn e halt e' ∧
          (halt = .accept ↔ Odd (binaryNumber ids)) ∧
          ∀ fuel > ids.length, scanner.acceptsById? fuel ids = .ok (some halt.isAccept) := by
  obtain ⟨m, hm, hdecides⟩ := exists_binaryParity_decides odd_iff_getElem?
  have hfits := fitsCells_of_binaryParity hm
  obtain ⟨scanner, hcompile, hscan⟩ := exists_compileById_eq_ok hfits
  have hbuilt : oddBinaryNumber = .ok m := hm
  refine ⟨scanner, ?_, ?_⟩
  · rw [oddBinaryNumberScanner, hbuilt]
    exact hcompile
  · intro ids hids
    have hrun := hdecides.exists_scanner_run hscan hfits (names_bits hm hids)
    have hmem : bits ids ∈ numerals Odd ↔ Odd (binaryNumber ((bits ids).map digit)) := Iff.rfl
    rwa [hmem, map_digit_bits hids] at hrun

/-! ## All words -/

theorem exists_acceptAll_decides :
    ∃ m, acceptAll = .ok m ∧ m.Decides ['0', '1'] (⊤ : Language Char) := by
  have hbuilt : errorOf? acceptAll = none := by decide +kernel
  obtain ⟨m, hm⟩ := errorOf?_eq_none_iff.1 hbuilt
  refine ⟨m, hm, decides_of_build (fun state _ => state = 0) hm rfl ?_ ?_⟩
  · rintro _ id target entries letter word rfl hentries hletter htarget
    match id with
    | 0 | 1 => cases hentries; cases htarget; rfl
    | id + 2 => cases hletter
  · rintro _ final word rfl hflag
    cases hflag
    exact iff_of_true rfl trivial

/-! ## The catalog -/

/-- The finite machines of the catalog are built and decide their languages: `a`s and then `b`s, the
odd and the even binary numbers, and all words over the two digits. On words of the ids of digits
the compiled machine halts, and accepts the odd numbers. -/
theorem machines_decide_languages :
    (∃ m, aStarBStar = .ok m ∧ m.Decides ['a', 'b'] asThenBs) ∧
    (∃ m, oddBinaryNumber = .ok m ∧ m.Decides ['0', '1'] (numerals Odd)) ∧
    (∃ m, evenBinaryNumber = .ok m ∧ m.Decides ['0', '1'] (numerals Even)) ∧
    (∃ m, acceptAll = .ok m ∧ m.Decides ['0', '1'] (⊤ : Language Char)) ∧
    ∃ scanner, oddBinaryNumberScanner = .ok scanner ∧
      ∀ ids : List Nat, (∀ id ∈ ids, id = 0 ∨ id = 1) →
        ∃ e halt e', scanner.startById ids = .ok e ∧ scanner.stepper.HaltsIn e halt e' ∧
          (halt = .accept ↔ Odd (binaryNumber ids)) ∧
          ∀ fuel > ids.length, scanner.acceptsById? fuel ids = .ok (some halt.isAccept) :=
  ⟨exists_aStarBStar_decides, exists_binaryParity_decides odd_iff_getElem?,
    exists_binaryParity_decides even_iff_getElem?, exists_acceptAll_decides,
    exists_oddBinaryNumberScanner_decides⟩

/-- `aab` is in order, `aba` is not, and `cab` is refused for its first letter. The number `110` is
even, and the compiled machine accepts `101`. -/
theorem words_machines_decide_languages :
    (∃ m, aStarBStar = .ok m ∧ m.accepts ['a', 'a', 'b'] = .ok true ∧
      m.accepts ['a', 'b', 'a'] = .ok false ∧
      m.accepts ['c', 'a', 'b'] = .error (.invalidLetter (quoted 'c'))) ∧
    (∃ m, evenBinaryNumber = .ok m ∧ m.accepts ['1', '1', '0'] = .ok true) ∧
    ∃ scanner, oddBinaryNumberScanner = .ok scanner ∧ (∀ id ∈ [1, 0, 1], id = 0 ∨ id = 1) ∧
      scanner.acceptsById? 4 [1, 0, 1] = .ok (some true) := by
  obtain ⟨⟨m, hm, hab⟩, -, ⟨m', hm', heven⟩, -, scanner, hscanner, hodd⟩ :=
    machines_decide_languages
  have hids : ∀ id ∈ [1, 0, 1], id = 0 ∨ id = 1 := by decide
  obtain ⟨e, halt, e', -, -, hhalt, hrun⟩ := hodd [1, 0, 1] hids
  have haccept : halt = .accept := hhalt.2 (by decide)
  refine ⟨⟨m, hm, ?_, ?_, ?_⟩, ⟨m', hm', ?_⟩, scanner, hscanner, hids, ?_⟩
  · exact (hab _).accepts_iff.2 ⟨by simp, 2, 1, rfl⟩
  · refine (hab _).rejects_iff.2 ⟨by simp, ?_⟩
    change (['a'] ++ ['b']) ++ ['a'] ∉ asThenBs
    rw [mem_asThenBs_concat_iff, mem_onlyAs_concat_iff]
    simp
  · exact (hab _).refusal 'c' (firstOutside_cons_of_not _ (by decide))
  · refine (heven _).accepts_iff.2 ⟨by simp, ?_⟩
    change Even (binaryNumber [1, 1, 0])
    decide
  · rw [hrun 4 (by decide), haccept]
    rfl

end Catalog

end TableMachines
