/-!
# Control values

What a Turing machine does in one step: the status it takes (`Status`), the letter it writes and
the way its head moves (`Direction`), together an `Action`. Tables hold these values as 32-bit
codes. The decoders are partial: a number that is no code has no value, and `ofCode?_code` says that
every code decodes to the value it came from.
-/

namespace TableMachines

/-- The ways a head can move. -/
inductive Direction where
  | left
  | stay
  | right
  deriving DecidableEq, Repr

/-- The two ways a run can end. -/
inductive Halt where
  | reject
  | accept
  deriving DecidableEq, Repr

/-- What a machine is doing: running in a state, or halted for good. -/
inductive Status where
  | running (state : Nat)
  | halted (halt : Halt)
  deriving DecidableEq, Repr

/-- What a machine does in a state under a letter. -/
structure Action where
  next : Status
  write : Nat
  /-- The way the head moves after writing. -/
  direction : Direction
  deriving DecidableEq, Repr

/-- What a run reports when it returns: it can go on, or it has halted. -/
inductive Outcome where
  | goesOn
  | halt (halt : Halt)
  deriving DecidableEq, Repr

namespace Direction

/-- Left is `-1`, staying `0` and right `1`. -/
def code : Direction → Int32
  | left => -1
  | stay => 0
  | right => 1

/-- The direction that a number is the code of. -/
def ofCode? (code : Int32) : Option Direction :=
  if code = -1 then some left
  else if code = 0 then some stay
  else if code = 1 then some right
  else none

/-- The number of cells the head moves to the right. -/
def offset : Direction → Int
  | left => -1
  | stay => 0
  | right => 1

theorem ofCode?_code (d : Direction) : ofCode? d.code = some d := by
  cases d <;> decide

theorem code_of_ofCode? {c : Int32} {d : Direction} (h : ofCode? c = some d) : d.code = c := by
  simp only [ofCode?] at h
  split at h
  · cases h; simp_all [code]
  · split at h
    · cases h; simp_all [code]
    · split at h
      · cases h; simp_all [code]
      · cases h

end Direction

namespace Halt

/-- Rejecting is `-1` and accepting `-2`. -/
def code : Halt → Int32
  | reject => -1
  | accept => -2

/-- The way to halt that a number is the code of. -/
def ofCode? (code : Int32) : Option Halt :=
  if code = -1 then some reject
  else if code = -2 then some accept
  else none

/-- The name of the halt as it is shown and stored. -/
def name : Halt → String
  | reject => "Reject"
  | accept => "Accept"

/-- Tells whether a run that ends in this way has accepted. -/
def isAccept (h : Halt) : Bool := h = accept

theorem ofCode?_code (h : Halt) : ofCode? h.code = some h := by
  cases h <;> decide

theorem code_of_ofCode? {c : Int32} {h : Halt} (e : ofCode? c = some h) : h.code = c := by
  simp only [ofCode?] at e
  split at e
  · cases e; simp_all [code]
  · split at e
    · cases e; simp_all [code]
    · cases e

end Halt

namespace Status

/-- The state number as a signed 64-bit word while running, and the halt code afterwards. -/
def code : Status → Int
  | running state => (Int64.ofNat state).toInt
  | halted h => h.code.toInt

/-- The status a table cell stands for: a halt code halts, another number from `0` on is a state. -/
def ofCode? (code : Int32) : Option Status :=
  match Halt.ofCode? code with
  | some h => some (halted h)
  | none => code.toInt.toNat?.map running

/-- Tells whether the machine has halted. -/
def isHalted : Status → Bool
  | running _ => false
  | halted _ => true

/-- The way the machine has halted, if it has. -/
def halt? : Status → Option Halt
  | running _ => none
  | halted h => some h

/-- The id of the state that the machine is in, while it is running. -/
def state? : Status → Option Nat
  | running state => some state
  | halted _ => none

/-- What a run that ends with this status reports. -/
def outcome : Status → Outcome
  | running _ => .goesOn
  | halted h => .halt h

theorem outcome_eq_halt_iff {status : Status} {h : Halt} :
    status.outcome = .halt h ↔ status = .halted h := by
  cases status <;> simp [outcome]

/-- Every number from the smaller halt code on stands for a status. -/
theorem exists_ofCode?_eq_some {c : Int32} (h : -2 ≤ c.toInt) : ∃ s, ofCode? c = some s := by
  unfold ofCode?
  split
  · exact ⟨_, rfl⟩
  · rename_i hnone
    have hneg : 0 ≤ c.toInt := by
      simp only [Halt.ofCode?] at hnone
      split at hnone
      · cases hnone
      · rename_i h1
        split at hnone
        · cases hnone
        · rename_i h2
          have h1 : c.toInt ≠ -1 := fun e => h1 (Int32.toInt_inj.1 e)
          have h2 : c.toInt ≠ -2 := fun e => h2 (Int32.toInt_inj.1 e)
          omega
    obtain ⟨n, hn⟩ := Int.eq_ofNat_of_zero_le hneg
    exact ⟨.running n, by simp [hn, Int.toNat?]⟩

/-- Below `2 ^ 63` the code of a state is its number. -/
theorem code_running {s : Nat} (h : s < 9223372036854775808) : code (running s) = s :=
  Int64.toInt_ofNat_of_lt h

end Status

end TableMachines
