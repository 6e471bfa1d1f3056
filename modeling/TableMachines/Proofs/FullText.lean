import Mathlib.Data.List.Basic
import TableMachines.TuringMachine.Execution

/-!
# What the full text tells

The full text of an execution is made of words with spaces between: one number for each cell of the
window, and in front of the number under the head the code of the status in brackets. No word
contains a space, so the text can be cut into its words again (`intercalate_space_inj`); only the
word of the head contains a bracket, so the place of the head can be seen; and different numbers are
written differently (`toString_int_injective`). Hence the text determines the tape and the code of
the status (`fullText_eq_iff_code`), and the code determines the status as long as states are below
`2 ^ 63` (`Status.code_inj`).
-/

namespace TableMachines

/-! ## Numbers in decimal -/

theorem isDigit_of_mem_toString {n : Nat} {c : Char} (h : c ∈ (toString n).toList) : c.isDigit := by
  rw [Nat.toString_eq_repr, Nat.toList_repr] at h
  exact Nat.isDigit_of_mem_toDigits (by decide) (by decide) h

theorem isDigit_or_of_mem_toString {i : Int} {c : Char} (h : c ∈ (toString i).toList) :
    c.isDigit ∨ c = '-' := by
  cases i with
  | ofNat n => exact Or.inl (isDigit_of_mem_toString h)
  | negSucc n =>
    change c ∈ ("-" ++ toString (n + 1)).toList at h
    rw [String.toList_append, List.mem_append] at h
    rcases h with h | h
    · exact Or.inr (List.mem_singleton.1 h)
    · exact Or.inl (isDigit_of_mem_toString h)

theorem toString_nat_injective : Function.Injective (toString : Nat → String) := by
  intro n k h
  have hdigits : Nat.toDigits 10 n = Nat.toDigits 10 k := by
    rw [← Nat.toList_repr, ← Nat.toList_repr]
    exact congrArg String.toList h
  rw [← Nat.ofDigitChars_ten_toDigits (n := n), hdigits, Nat.ofDigitChars_ten_toDigits]

theorem toString_negSucc_ne (n k : Nat) : toString (Int.negSucc n) ≠ toString k := by
  intro h
  have hsign : '-' ∈ (toString k).toList := by
    rw [← h]
    change '-' ∈ ("-" ++ toString (n + 1)).toList
    simp
  exact absurd (isDigit_of_mem_toString hsign) (by decide)

/-- Negative numbers are told apart by their sign, and what follows it is a number again. -/
theorem toString_int_injective : Function.Injective (toString : Int → String) := by
  intro i j h
  cases i with
  | ofNat n =>
    cases j with
    | ofNat k => exact congrArg Int.ofNat (toString_nat_injective h)
    | negSucc k => exact absurd h.symm (toString_negSucc_ne k n)
  | negSucc n =>
    cases j with
    | ofNat k => exact absurd h (toString_negSucc_ne n k)
    | negSucc k =>
      change "-" ++ toString (n + 1) = "-" ++ toString (k + 1) at h
      have hdigits : toString (n + 1) = toString (k + 1) := by
        simpa [← String.toList_inj] using h
      rw [Nat.succ.inj (toString_nat_injective hdigits)]

/-! ## Codes of statuses -/

theorem Status.code_halted (halt : Halt) : -2 ≤ (halted halt).code ∧ (halted halt).code < 0 := by
  cases halt <;> decide

/-- Below `2 ^ 63` states have codes of their own, none of them a halt code. -/
theorem Status.code_inj {states : Nat} (hstates : states ≤ 9223372036854775808) {s s' : Status}
    (hs : ∀ q, s = running q → q < states) (hs' : ∀ q, s' = running q → q < states)
    (h : s.code = s'.code) : s = s' := by
  have hcode : ∀ q, q < states → (running q).code = q := by
    intro q hq
    exact code_running (by omega)
  cases s with
  | running q =>
    rw [hcode q (hs q rfl)] at h
    cases s' with
    | running q' =>
      rw [hcode q' (hs' q' rfl)] at h
      rw [Int.ofNat.inj h]
    | halted halt' =>
      have := code_halted halt'
      omega
  | halted halt =>
    cases s' with
    | running q' =>
      rw [hcode q' (hs' q' rfl)] at h
      have := code_halted halt
      omega
    | halted halt' =>
      have hdecoded := congrArg Halt.ofCode? (Int32.toInt_inj.1 h)
      rw [Halt.ofCode?_code, Halt.ofCode?_code] at hdecoded
      rw [Option.some.inj hdecoded]

/-! ## Words with spaces between -/

/-- Words without spaces can be read off the text that has them with spaces between. -/
theorem intercalate_space_inj {words words' : List String} (h : ∀ word ∈ words, ' ' ∉ word.toList)
    (h' : ∀ word ∈ words', ' ' ∉ word.toList) (hne : words ≠ []) (hne' : words' ≠ [])
    (heq : " ".intercalate words = " ".intercalate words') : words = words' := by
  have hsplit : ∀ {words : List String}, (∀ word ∈ words, ' ' ∉ word.toList) → words ≠ [] →
      (" ".intercalate words).toList.splitOn ' ' = words.map String.toList := by
    intro words h hne
    rw [String.toList_intercalate]
    refine List.splitOn_intercalate ' ' ?_ (by simpa using hne)
    intro l hl
    obtain ⟨word, hword, rfl⟩ := List.mem_map.1 hl
    exact h word hword
  have hmap : words.map String.toList = words'.map String.toList := by
    rw [← hsplit h hne, ← hsplit h' hne', heq]
  exact (List.map_inj_right fun _ _ => String.toList_inj.1).1 hmap

namespace TuringMachine

namespace Execution

variable {e e' : Execution}

/-- The word of the cell under the head. -/
def headWord (e : Execution) : String := s!"[{e.status.code}]>{e.tape.head}"

/-- The words of the full text, one for each cell. -/
def fullWords (e : Execution) : List String :=
  e.tape.left.reverse.map toString ++ e.headWord :: e.tape.right.map toString

theorem fullText_eq (e : Execution) : e.fullText = " ".intercalate e.fullWords := rfl

theorem toList_headWord (e : Execution) :
    e.headWord.toList =
      '[' :: (toString e.status.code).toList ++ ']' :: '>' :: (toString e.tape.head).toList := by
  change ("[" ++ toString e.status.code ++ "]>" ++ toString e.tape.head).toList = _
  simp only [String.toList_append, List.append_assoc]
  rfl

/-- The bracket after the code is the only one of its kind. -/
theorem headWord_inj (h : e.headWord = e'.headWord) :
    e.status.code = e'.status.code ∧ e.tape.head = e'.tape.head := by
  have hlist := congrArg String.toList h
  rw [toList_headWord, toList_headWord, List.cons_append, List.cons_append,
    List.cons.injEq] at hlist
  have hcode : ∀ i : Int, ']' ∉ (toString i).toList := by
    intro i hmem
    rcases isDigit_or_of_mem_toString hmem with hdigit | heq
    · exact absurd hdigit (by decide)
    · exact absurd heq (by decide)
  have hhead : ∀ n : Nat, ']' ∉ '>' :: (toString n).toList := by
    intro n hmem
    rcases List.mem_cons.1 hmem with heq | hmem
    · exact absurd heq (by decide)
    · exact absurd (isDigit_of_mem_toString hmem) (by decide)
  obtain ⟨hcode, -, hhead⟩ :=
    (List.append_cons_inj_of_notMem (hcode _) (hhead _)).1 hlist.2
  exact ⟨toString_int_injective (String.toList_inj.1 hcode),
    toString_nat_injective (String.toList_inj.1 (List.cons.inj hhead).2)⟩

theorem isDigit_or_of_mem_headWord {c : Char} (h : c ∈ e.headWord.toList) :
    c.isDigit ∨ c ∈ ['-', '[', ']', '>'] := by
  rw [toList_headWord] at h
  simp only [List.cons_append, List.mem_cons, List.mem_append] at h
  rcases h with rfl | h | rfl | rfl | h
  · simp
  · exact (isDigit_or_of_mem_toString h).imp id fun h => by simp [h]
  · simp
  · simp
  · exact Or.inl (isDigit_of_mem_toString h)

theorem headWord_ne_toString (n : Nat) : e.headWord ≠ toString n := by
  intro h
  have hmem : '[' ∈ (toString n).toList := by
    rw [← h, toList_headWord]
    exact List.mem_cons_self
  exact absurd (isDigit_of_mem_toString hmem) (by decide)

theorem space_notMem_of_mem_fullWords {word : String} (h : word ∈ e.fullWords) :
    ' ' ∉ word.toList := by
  intro hspace
  have hnumber : ∀ l : List Nat, word ∉ l.map toString := by
    intro l hmem
    obtain ⟨n, -, rfl⟩ := List.mem_map.1 hmem
    exact absurd (isDigit_of_mem_toString hspace) (by decide)
  rcases List.mem_append.1 h with h | h
  · exact hnumber _ h
  · rcases List.mem_cons.1 h with rfl | h
    · exact absurd (isDigit_or_of_mem_headWord hspace) (by decide)
    · exact hnumber _ h

theorem fullWords_inj (h : e.fullWords = e'.fullWords) :
    e.status.code = e'.status.code ∧ e.tape = e'.tape := by
  have hhead : ∀ l : List Nat, e'.headWord ∉ l.map toString := by
    intro l hmem
    obtain ⟨n, -, hn⟩ := List.mem_map.1 hmem
    exact headWord_ne_toString n hn.symm
  obtain ⟨hleft, hword, hright⟩ :=
    (List.append_cons_inj_of_notMem (hhead _) (hhead _)).1 h
  obtain ⟨hcode, hletter⟩ := headWord_inj hword
  have hnumbers : ∀ {l l' : List Nat}, l.map toString = l'.map toString → l = l' :=
    (List.map_inj_right fun _ _ h => toString_nat_injective h).1
  refine ⟨hcode, ?_⟩
  calc e.tape = ⟨e.tape.left, e.tape.head, e.tape.right⟩ := rfl
    _ = ⟨e'.tape.left, e'.tape.head, e'.tape.right⟩ := by
      rw [List.reverse_injective (hnumbers hleft), hletter, hnumbers hright]
    _ = e'.tape := rfl

/-- Two executions have the same full text exactly when they have the same tape and the same code of
the status. -/
theorem fullText_eq_iff_code :
    e.fullText = e'.fullText ↔ e.status.code = e'.status.code ∧ e.tape = e'.tape := by
  constructor
  · intro h
    apply fullWords_inj
    refine intercalate_space_inj (fun _ => space_notMem_of_mem_fullWords)
      (fun _ => space_notMem_of_mem_fullWords) ?_ ?_ h
    · simp [fullWords]
    · simp [fullWords]
  · rintro ⟨hcode, htape⟩
    rw [fullText_eq, fullText_eq, fullWords, fullWords, headWord, headWord, hcode, htape]

end Execution

end TuringMachine

end TableMachines
