import TableMachines.Control

/-!
# Control values as structured data

Directions, halts, statuses and actions can be stored as structured data: numbers, texts, lists and
records. A plain case is the text of its name, or a record with the name as its one field and
nothing in it; a case with an argument is a record with the name as its one field; an action is a
record of its three fields, or the list of their values. `toDatum` always writes the first of these
forms, and `ofDatum?_toDatum` says that what was written is read back.
-/

namespace TableMachines

/-- Structured data. A number with a fraction or an exponent is a `decimal`, which no control value
contains, so only its being there is kept. -/
inductive Datum where
  | null
  | boolean (value : Bool)
  | integer (value : Int)
  | decimal
  | text (value : String)
  | list (items : List Datum)
  | record (fields : List (String × Datum))
  deriving Inhabited

namespace Datum

/-- The name of a plain case, in either of its forms. -/
def caseName? : Datum → Option String
  | text name => some name
  | record [(name, null)] => some name
  | _ => none

/-- The number of an id: an integer from `0` on that fits in 64 bits. -/
def id? : Datum → Option Nat
  | integer value => value.toNat?.filter (· < UInt64.size)
  | _ => none

theorem id?_integer {n : Nat} (h : n < UInt64.size) : id? (integer n) = some n := by
  change (some n).filter (fun id => decide (id < UInt64.size)) = some n
  rw [Option.filter_some, if_pos (decide_eq_true h)]

end Datum

namespace Direction

/-- The text of the name. -/
def toDatum : Direction → Datum
  | left => .text "Left"
  | stay => .text "Stay"
  | right => .text "Right"

/-- The direction that a plain case names. -/
def ofDatum? (d : Datum) : Option Direction :=
  match d.caseName? with
  | some "Left" => some left
  | some "Stay" => some stay
  | some "Right" => some right
  | _ => none

theorem ofDatum?_toDatum (d : Direction) : ofDatum? d.toDatum = some d := by
  cases d <;> rfl

end Direction

namespace Halt

/-- The text of the name. -/
def toDatum (h : Halt) : Datum := .text h.name

/-- The way to halt that a plain case names. -/
def ofDatum? (d : Datum) : Option Halt :=
  match d.caseName? with
  | some "Reject" => some reject
  | some "Accept" => some accept
  | _ => none

theorem ofDatum?_toDatum (h : Halt) : ofDatum? h.toDatum = some h := by
  cases h <;> rfl

end Halt

namespace Status

/-- A record with the name of the case and its argument. -/
def toDatum : Status → Datum
  | running state => .record [("Running", .integer state)]
  | halted halt => .record [("Halted", halt.toDatum)]

/-- The status in a record with the name of the case and its argument. -/
def ofDatum? : Datum → Option Status
  | .record [("Running", argument)] => argument.id?.map running
  | .record [("Halted", argument)] => (Halt.ofDatum? argument).map halted
  | _ => none

/-- The numbers a stored status can hold. -/
def IsStorable : Status → Prop
  | running state => state < UInt64.size
  | halted _ => True

theorem ofDatum?_toDatum {s : Status} (h : s.IsStorable) : ofDatum? s.toDatum = some s := by
  cases s with
  | running state => simp [toDatum, ofDatum?, Datum.id?_integer h]
  | halted halt => simp [toDatum, ofDatum?, Halt.ofDatum?_toDatum]

end Status

namespace Outcome

/-- The name of the case, as a record when it has an argument. -/
def toDatum : Outcome → Datum
  | goesOn => .text "Continue"
  | halt h => .record [("Halt", h.toDatum)]

end Outcome

namespace Action

/-- A record of the three fields. -/
def toDatum (a : Action) : Datum :=
  .record [("next", a.next.toDatum), ("write", .integer a.write),
    ("direction", a.direction.toDatum)]

/-- The action with the three given fields. -/
def ofParts? (next write direction : Datum) : Option Action := do
  let next ← Status.ofDatum? next
  let write ← write.id?
  let direction ← Direction.ofDatum? direction
  some { next, write, direction }

/-- The action in a record of at least the three fields, or in a list of their values. -/
def ofDatum? : Datum → Option Action
  | .list [next, write, direction] => ofParts? next write direction
  | .record fields => do
    ofParts? (← fields.lookup "next") (← fields.lookup "write") (← fields.lookup "direction")
  | _ => none

theorem ofDatum?_toDatum {a : Action} (hnext : a.next.IsStorable) (hwrite : a.write < UInt64.size) :
    ofDatum? a.toDatum = some a := by
  change ofParts? a.next.toDatum (.integer a.write) a.direction.toDatum = some a
  simp [ofParts?, Status.ofDatum?_toDatum hnext, Datum.id?_integer hwrite,
    Direction.ofDatum?_toDatum]

end Action

end TableMachines
