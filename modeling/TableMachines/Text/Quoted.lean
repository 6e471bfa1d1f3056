import TableMachines.Text.Extending
import TableMachines.Text.Unprintable

/-!
# Quoted values

Messages name the letters and states they are about by a text in quotes. Numbers are written in
decimal, characters between single quotes and strings between double quotes; inside quotes, the
quote itself, the backslash, the usual controls and everything hard to read on paper are escaped,
so that two different values of one type never share a text.
-/

namespace TableMachines

/-- Types whose values have a text for messages. -/
class Quoted (α : Type) where
  quoted : α → String

export Quoted (quoted)

namespace Text

/-- The code point of `c`, in lower-case hexadecimal. -/
def hexDigits (c : Char) : String := String.ofList (Nat.toDigits 16 c.toNat)

/-- The text of `c` between quotes `quote`: a short escape for the quote, the backslash and four
controls, the code point for what is hard to read, and `c` itself otherwise. -/
def escaped (quote c : Char) : String :=
  if c = quote then String.ofList ['\\', c]
  else if c = '\\' then "\\\\"
  else if c = '\x00' then "\\0"
  else if c = '\t' then "\\t"
  else if c = '\n' then "\\n"
  else if c = '\r' then "\\r"
  else if isExtending c || isUnprintable c then "\\u\x7b" ++ hexDigits c ++ "\x7d"
  else c.toString

/-- The escaped characters of `cs`, between two quotes. -/
def between (quote : Char) (cs : List Char) : String :=
  quote.toString ++ String.join (cs.map (escaped quote)) ++ quote.toString

end Text

/-- Numbers stand for themselves, without quotes. -/
instance : Quoted Nat := ⟨fun n => toString n⟩

/-- Negative numbers have a sign. -/
instance : Quoted Int := ⟨fun i => toString i⟩

/-- A character stands between single quotes. -/
instance : Quoted Char := ⟨fun c => Text.between '\'' [c]⟩

/-- A string stands between double quotes. -/
instance : Quoted String := ⟨fun s => Text.between '"' s.toList⟩

/-- An optional value shows whether it is there, with its own text in brackets. -/
instance {α : Type} [Quoted α] : Quoted (Option α) where
  quoted
    | none => "None"
    | some a => "Some(" ++ quoted a ++ ")"

theorem quoted_nat (n : Nat) : quoted n = toString n := rfl

theorem quoted_some {α : Type} [Quoted α] (a : α) :
    quoted (some a) = "Some(" ++ quoted a ++ ")" := rfl

end TableMachines
