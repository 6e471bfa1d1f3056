import TableMachines.Scanner

/-!
# A catalog of machines

Six ready-made machines: four finite machines for well-known languages, the three-state busy beaver,
and one of the finite machines compiled. `programs` lists them with a description of what they do.
-/

namespace TableMachines

namespace Catalog

/-- The kind of machine a program is. -/
inductive Kind where
  | finite
  | turing
  deriving DecidableEq, Repr

/-- The name of the kind as it is shown. -/
def Kind.name : Kind → String
  | finite => "FiniteStateMachine"
  | turing => "TuringMachine"

/-- What the catalog tells about one of its machines. -/
structure Program where
  name : String
  kind : Kind
  description : String
  deriving DecidableEq, Repr

/-- All machines of the catalog, in the order in which they are listed. -/
def programs : List Program :=
  [ { name := "odd-binary-number"
      kind := .finite
      description := "Accepts binary numbers (most significant bit first) that are odd" },
    { name := "even-binary-number"
      kind := .finite
      description := "Accepts binary numbers that are even, including the empty word" },
    { name := "accept-all"
      kind := .finite
      description := "Accepts every word over \x7b0, 1\x7d" },
    { name := "a-star-b-star"
      kind := .finite
      description := "Accepts a*b* over \x7ba, b\x7d" },
    { name := "busy-beaver-3"
      kind := .turing
      description := "The 3-state, 2-symbol busy beaver; halts after 13 steps with six 1s" },
    { name := "odd-binary-number-tm"
      kind := .turing
      description := "odd-binary-number compiled into a Turing Machine" } ]

/-- What the catalog tells about the machine of a name. -/
def program? (name : String) : Option Program := programs.find? (·.name = name)

/-- The names of all machines, in the order of `programs`. -/
def programNames : List String := programs.map (·.name)

/-- Reads a binary number, most significant bit first, and is in state `even` or `odd` as the number
read so far is. -/
def binaryParity (evenFinal oddFinal : Bool) : Except MachineError (FiniteMachine Char String) :=
  FiniteMachine.build (.listed ['0', '1']) (.listed ["even", "odd"]) 0
    (.ofVectors #v[#v[0, 1], #v[0, 1]]) (.ofList [evenFinal, oddFinal])

/-- Accepts the odd binary numbers. -/
def oddBinaryNumber : Except MachineError (FiniteMachine Char String) := binaryParity false true

/-- Accepts the even binary numbers and the empty word. -/
def evenBinaryNumber : Except MachineError (FiniteMachine Char String) := binaryParity true false

/-- Accepts every word over the two digits, in its one state. -/
def acceptAll : Except MachineError (FiniteMachine Char Char) :=
  FiniteMachine.build (.listed ['0', '1']) (.listed ['F']) 0 (.ofVectors #v[#v[0, 0]])
    (.ofList [true])

/-- Accepts the words of `a`s followed by `b`s: state `0` has read only `a`s, state `1` has read a
`b` and no `a` after it, and state `2` is left no more. -/
def aStarBStar : Except MachineError (FiniteMachine Char Nat) :=
  FiniteMachine.build (.listed ['a', 'b']) .ids 0
    (.ofVectors #v[#v[0, 1], #v[2, 1], #v[2, 2]]) (.ofList [true, true, false])

/-- The three-state busy beaver: letter `0` is the blank and letter `1` the only input letter. -/
def busyBeaver3 : Except MachineError (TuringMachine Nat Nat) :=
  TuringMachine.byId 0 (some (.ofList [false, true])) 0
    (.ofVectors #v[#v[1, 1, 1, 2, 1, -1], #v[0, 1, -1, 1, 1, 1], #v[1, 1, -1, -2, 1, 0]])

/-- The Turing machine that `oddBinaryNumber` compiles to, with ids for letters and states. -/
def oddBinaryNumberScanner : Except MachineError (TuringMachine Nat Nat) := do
  (← oddBinaryNumber).compileById

end Catalog

end TableMachines
