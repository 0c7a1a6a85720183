/-
Module: ReviewGroups.Json.Writer
Purpose: Writing JSON text, on one line, with characters beyond ASCII as they are.
Trusted boundary: none
Main exports: Separators, compact, spaced, Json.escapeChar, Json.writeText, Json.write, Json.render,
  Json.all, Json.isFinite, Json.isWritable
-/
import ReviewGroups.Json.Basic
import ReviewGroups.Number.FloatText
import ReviewGroups.Text.Digit
import ReviewGroups.Text.Hex

namespace ReviewGroups

/-- What stands between the items of a list or an object, and after a name. -/
structure Separators where
  item : List Char
  name : List Char
deriving Repr, Inhabited, DecidableEq

/-- Request bodies have no space in them. -/
def compact : Separators := ⟨[','], [':']⟩

/-- Stored documents have a space after each comma and colon. -/
def spaced : Separators := ⟨[',', ' '], [':', ' ']⟩

/-- The numbers of JSON text, and names for what is no number. -/
def jsonFloatFormat : FloatFormat :=
  { floatFormat with
    notANumber := "NaN"
    infinite := "Infinity" }

namespace Json

/-- One character of a quoted text: only the quote, the backslash and the controls below the space
are escaped. -/
def escapeChar (c : Char) : List Char :=
  match c with
  | '"' => ['\\', '"']
  | '\\' => ['\\', '\\']
  | '\n' => ['\\', 'n']
  | '\r' => ['\\', 'r']
  | '\t' => ['\\', 't']
  | '\x0c' => ['\\', 'f']
  | '\x08' => ['\\', 'b']
  | c => if c.toNat < 0x20 then '\\' :: 'u' :: Text.Hex.digits 4 c.toNat else [c]

/-- A text between quotes. -/
def writeText (s : String) : List Char :=
  '"' :: s.toList.flatMap escapeChar ++ ['"']

mutual

/-- The text of a value. -/
def write (separators : Separators) : Json → List Char
  | .null => "null".toList
  | .bool true => "true".toList
  | .bool false => "false".toList
  | .int n => (toString n).toList
  | .float x => (x.render jsonFloatFormat).toList
  | .text s => writeText s
  | .list [] => ['[', ']']
  | .list (item :: items) =>
      '[' :: write separators item ++ writeItems separators items
  | .object [] => ['\x7b', '\x7d']
  | .object ((name, value) :: members) =>
      '\x7b' :: writeText name ++ separators.name ++ write separators value ++
        writeMembers separators members

/-- The items after the first one, and the closing bracket. -/
def writeItems (separators : Separators) : List Json → List Char
  | [] => [']']
  | item :: items => separators.item ++ write separators item ++ writeItems separators items

/-- The members after the first one, and the closing brace. -/
def writeMembers (separators : Separators) : List (String × Json) → List Char
  | [] => ['\x7d']
  | (name, value) :: members =>
      separators.item ++ writeText name ++ separators.name ++ write separators value ++
        writeMembers separators members

end

/-- The text of a document. -/
def render (separators : Separators) (value : Json) : String :=
  String.ofList (write separators value)

mutual

/-- A test holds of everything in the value that is neither a list nor an object. -/
def all (test : Json → Bool) : Json → Bool
  | .list items => itemsAll test items
  | .object members => membersAll test members
  | value => test value

/-- The test holds of everything in the items. -/
def itemsAll (test : Json → Bool) : List Json → Bool
  | [] => true
  | item :: items => all test item && itemsAll test items

/-- The test holds of everything in the members. -/
def membersAll (test : Json → Bool) : List (String × Json) → Bool
  | [] => true
  | (_, value) :: members => all test value && membersAll test members

end

/-- Every number in the value is finite. -/
def isFinite (value : Json) : Bool :=
  value.all fun part => match part with | .float x => x.isFinite | _ => true

/-- Every whole number in the value has few enough digits to be written. -/
def isWritable (value : Json) : Bool :=
  value.all fun part => match part with | .int n => Text.isShort n | _ => true

end Json

end ReviewGroups
