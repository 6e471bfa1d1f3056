import TableMachines.Proofs.LockStep

/-!
# The scanner decides the language of its finite machine

Compiling keeps the language (`compileById_language`). On a word of letters the run of the scanner
returns, with the answer of the finite machine (`IsScanner.exists_run`). On any other word both
fail, and both errors name the same letter, the first one that is not in the alphabet.
-/

namespace TableMachines

theorem Halt.isAccept_ite (accepted : Bool) :
    (if accepted then Halt.accept else Halt.reject).isAccept = accepted := by
  cases accepted <;> rfl

namespace TuringMachine

variable {B T : Type} {scanner : TuringMachine B T} {word : List Nat}

theorem acceptsById?_eq_ok {e e' : Execution} {halt : Halt} {fuel : Nat}
    (hstart : scanner.startById word = .ok e) (hrun : scanner.runToHalt? fuel e = some (halt, e')) :
    scanner.acceptsById? fuel word = .ok (some halt.isAccept) := by
  unfold acceptsById?
  rw [hstart]
  change Except.ok ((scanner.runToHalt? fuel e).map _) = _
  rw [hrun]
  rfl

theorem acceptsById?_eq_error {error : MachineError}
    (hstart : scanner.startById word = .error error) (fuel : Nat) :
    scanner.acceptsById? fuel word = .error error := by
  unfold acceptsById?
  rw [hstart]
  rfl

end TuringMachine

namespace FiniteMachine

variable {A S B T : Type} {m : FiniteMachine A S} {scanner : TuringMachine B T} {word : List Nat}

theorem acceptsById_eq_ok {state : Nat} {final : Bool} (hread : m.stateIdAfterById word = .ok state)
    (hfinal : m.isFinalById state = .ok final) : m.acceptsById word = .ok final := by
  unfold acceptsById
  rw [hread]
  exact hfinal

theorem acceptsById_eq_error {letter : Nat}
    (h : word.find? (m.alphabet.size ≤ ·) = some letter) :
    m.acceptsById word = .error (.invalidLetter (toString letter)) := by
  unfold acceptsById
  rw [stateIdAfterById_eq_error h]
  rfl

namespace IsScanner

theorem startById_eq_error (hm : m.IsScanner scanner) {letter : Nat}
    (h : word.find? (m.alphabet.size ≤ ·) = some letter) :
    scanner.startById word = .error (.notInputLetter letter) := by
  have hrefused : (!scanner.isInputById ·) = fun letter => decide (m.alphabet.size ≤ letter) := by
    funext letter
    rw [Bool.eq_iff_iff, Bool.not_eq_true', ← Bool.not_eq_true, hm.isInputById_iff,
      decide_eq_true_iff, Nat.not_lt]
  unfold TuringMachine.startById
  rw [hrefused, h]

/-- On a word of letters the run of a scanner returns, and accepts when the machine does. -/
theorem exists_run (hm : m.IsScanner scanner) (hfits : m.FitsCells)
    (hword : ∀ letter ∈ word, letter < m.alphabet.size) :
    ∃ accepted e, m.acceptsById word = .ok accepted ∧
      scanner.stepper.HaltsIn (scanner.startOn (.ofWord m.alphabet.size word))
        (if accepted then .accept else .reject) e ∧
      ∀ fuel > word.length, scanner.runToHalt? fuel
        (scanner.startOn (.ofWord m.alphabet.size word)) =
          some (if accepted then .accept else .reject, e) := by
  obtain ⟨state, final, hread, hfinal, hhalt, -⟩ := hm.exists_scanned hfits hword
  have hgo : ∀ k < word.length, (scanner.step (scanner.stepper.after k
      (scanner.startOn (.ofWord m.alphabet.size word)))).1 = .goesOn := by
    intro k hk
    exact hm.goesOn_of_lt hfits hword hk
  refine ⟨final, _, acceptsById_eq_ok hread hfinal, Stepper.haltsIn_of_after hgo hhalt, ?_⟩
  intro fuel hfuel
  exact Stepper.toHalt?_eq_some_of_after hgo hhalt hfuel

end IsScanner

/-- While its ids fit 32-bit cells, a finite machine compiles to a Turing machine with the same
language. On a word of letters the Turing machine starts, its run returns within every bound above
the length of the word, and it accepts exactly when the finite machine does. On a word with other
ids both machines fail with the first of them, the blank included. -/
theorem compileById_language (hstates : m.states.size ≤ 2147483648)
    (hletters : m.alphabet.size < 2147483648) :
    ∃ scanner, m.compileById = .ok scanner ∧ ∀ word : List Nat,
      match word.find? (m.alphabet.size ≤ ·) with
      | none => ∃ accepted e halt e', m.acceptsById word = .ok accepted ∧
          scanner.startById word = .ok e ∧ scanner.stepper.HaltsIn e halt e' ∧
          halt.isAccept = accepted ∧
          ∀ fuel > word.length, scanner.acceptsById? fuel word = .ok (some accepted)
      | some letter => m.acceptsById word = .error (.invalidLetter (toString letter)) ∧
          scanner.startById word = .error (.notInputLetter letter) ∧
          ∀ fuel, scanner.acceptsById? fuel word = .error (.notInputLetter letter) := by
  have hfits : m.FitsCells := ⟨hstates, hletters⟩
  obtain ⟨scanner, hcompile, hm⟩ := exists_compileById_eq_ok hfits
  refine ⟨scanner, hcompile, ?_⟩
  intro word
  cases hfind : word.find? (m.alphabet.size ≤ ·) with
  | none =>
    have hword : ∀ letter ∈ word, letter < m.alphabet.size := by
      simpa using List.find?_eq_none.1 hfind
    have hstart := hm.startById_eq_ok hword
    obtain ⟨accepted, e, haccepts, hhalts, hrun⟩ := hm.exists_run hfits hword
    refine ⟨accepted, _, _, e, haccepts, hstart, hhalts, Halt.isAccept_ite accepted, ?_⟩
    intro fuel hfuel
    rw [TuringMachine.acceptsById?_eq_ok hstart (hrun fuel hfuel), Halt.isAccept_ite]
  | some letter =>
    have hstart := hm.startById_eq_error hfind
    exact ⟨acceptsById_eq_error hfind, hstart, TuringMachine.acceptsById?_eq_error hstart⟩

/-- The scanner of `onesModThree` rejects `1 0 1` as the machine does, and refuses `0 2 3` at the
blank, where the machine finds a letter it does not have. -/
theorem onesModThree_compileById_language :
    onesModThree.states.size ≤ 2147483648 ∧ onesModThree.alphabet.size < 2147483648 ∧
      ∃ scanner, onesModThree.compileById = .ok scanner ∧
        onesModThree.acceptsById [1, 0, 1] = .ok false ∧
        (∀ fuel > 3, scanner.acceptsById? fuel [1, 0, 1] = .ok (some false)) ∧
        onesModThree.acceptsById [0, 2, 3] = .error (.invalidLetter "2") ∧
        scanner.startById [0, 2, 3] = .error (.notInputLetter 2) := by
  have hstates : onesModThree.states.size ≤ 2147483648 := by decide +kernel
  have hletters : onesModThree.alphabet.size < 2147483648 := by decide +kernel
  obtain ⟨scanner, hcompile, hall⟩ := compileById_language hstates hletters
  have hnone : [1, 0, 1].find? (onesModThree.alphabet.size ≤ ·) = none := by decide +kernel
  have hsome : [0, 2, 3].find? (onesModThree.alphabet.size ≤ ·) = some 2 := by decide +kernel
  have hread := hall [1, 0, 1]
  have hrefuse := hall [0, 2, 3]
  rw [hnone] at hread
  rw [hsome] at hrefuse
  obtain ⟨accepted, e, halt, e', haccepts, -, -, -, hrun⟩ := hread
  obtain ⟨hinvalid, hstart, -⟩ := hrefuse
  have hfalse : (onesModThree.acceptsById [1, 0, 1]).toOption = some false := by decide +kernel
  obtain rfl : accepted = false := by
    rw [haccepts] at hfalse
    exact Option.some.inj hfalse
  exact ⟨hstates, hletters, scanner, hcompile, haccepts, hrun, hinvalid, hstart⟩

end FiniteMachine

end TableMachines
