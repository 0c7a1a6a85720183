/-
Module: ReviewGroups.Text.Quoted
Purpose: Text between quotes, with escapes, as messages and log lines show it.
Trusted boundary: none
Main exports: quoteMark, escapeChar, quoted, quotedPoints
-/
import ReviewGroups.Text.Hex
import ReviewGroups.Text.Printable

namespace ReviewGroups.Text

/-- Single quotes, except around a text that holds a single quote and no double quote. -/
def quoteMark (cs : List Char) : Char :=
  if '\'' ∈ cs ∧ '"' ∉ cs then '"' else '\''

/-- The shortest of the three numeric escapes that has room for the code point. -/
def numericEscape (n : Nat) : List Char :=
  if n < 0x100 then ['\\', 'x'] ++ Hex.digits 2 n
  else if n < 0x10000 then ['\\', 'u'] ++ Hex.digits 4 n
  else ['\\', 'U'] ++ Hex.digits 8 n

/-- One character inside quotes `mark`. -/
def escapeChar (mark c : Char) : List Char :=
  if c = mark ∨ c = '\\' then ['\\', c]
  else if c = '\n' then ['\\', 'n']
  else if c = '\r' then ['\\', 'r']
  else if c = '\t' then ['\\', 't']
  else if isPrintable c then [c]
  else numericEscape c.toNat

/-- The text between quotes, every character that is not printable escaped. -/
def quoted (s : String) : String :=
  let mark := quoteMark s.toList
  String.ofList (mark :: s.toList.flatMap (escapeChar mark) ++ [mark])

/-- Code points between quotes, also those that are no characters. -/
def quotedPoints (points : List Nat) : String :=
  let mark := quoteMark ((points.filter fun n => n.isValidChar).map Char.ofNat)
  let inside :=
    points.flatMap fun n =>
      if n.isValidChar then escapeChar mark (Char.ofNat n) else numericEscape n
  String.ofList (mark :: inside ++ [mark])

end ReviewGroups.Text
