/-
Module: ReviewGroups.Json.Fault
Purpose: What can be wrong with a JSON text, where, and the words for it.
Trusted boundary: none
Main exports: Flaw, Flaw.message, Fault, Fault.describe
-/
import ReviewGroups.Text.Digit

namespace ReviewGroups

/-- What can be wrong with a JSON text. -/
inductive Flaw where
  | expectingValue
  | expectingName
  | expectingColon
  | expectingComma
  | extraData
  | unterminatedText
  | controlCharacter
  | invalidEscape
  | invalidUnicodeEscape
  | byteOrderMark
  | numberTooLong (digits : Nat)
deriving Repr, Inhabited, DecidableEq

/-- A flaw, and the text from the place where it lies to the end. -/
structure Fault where
  flaw : Flaw
  rest : List Char
deriving Repr, Inhabited, DecidableEq

/-- The message for a number of too many digits. -/
def numberTooLongMessage (digits : Nat) : String :=
  s!"Exceeds the limit ({Text.digitLimit} digits) for integer string conversion: " ++
    s!"value has {digits} digits; use sys.set_int_max_str_digits() to increase the limit"

/-- The words for a flaw. -/
def Flaw.message : Flaw → String
  | .expectingValue => "Expecting value"
  | .expectingName => "Expecting property name enclosed in double quotes"
  | .expectingColon => "Expecting ':' delimiter"
  | .expectingComma => "Expecting ',' delimiter"
  | .extraData => "Extra data"
  | .unterminatedText => "Unterminated string starting at"
  | .controlCharacter => "Invalid control character at"
  | .invalidEscape => "Invalid \\escape"
  | .invalidUnicodeEscape => "Invalid \\uXXXX escape"
  | .byteOrderMark => "Unexpected UTF-8 BOM (decode using utf-8-sig)"
  | .numberTooLong digits => numberTooLongMessage digits

/-- The message for a fault in `text`: the flaw, with the line and the column, both from one, and
the offset of its place.  Only a line feed ends a line.  A number of too many digits has no
place. -/
def Fault.describe (text : List Char) (fault : Fault) : String :=
  match fault.flaw with
  | .numberTooLong _ => fault.flaw.message
  | flaw =>
      let offset := text.length - fault.rest.length
      let before := text.take offset
      let line := before.count '\n' + 1
      let column := (before.reverse.takeWhile (· != '\n')).length + 1
      s!"{flaw.message}: line {line} column {column} (char {offset})"

end ReviewGroups
