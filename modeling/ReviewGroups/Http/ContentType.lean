/-
Module: ReviewGroups.Http.ContentType
Purpose: The parameters of a content type, and the character set that they name.
Trusted boundary: none
Main exports: ContentType.Fault, ContentType.parameters, ContentType.label?, ContentType.charset?
-/
import ReviewGroups.Charset
import ReviewGroups.Text.Lower

namespace ReviewGroups.Http.ContentType

/-- Why the parameters of a content type cannot be taken in: segments of one parameter that have
numbers in part, or a label with a null character.  The flag says that a number comes later. -/
inductive Fault where
  | mixedSegments (numberLater : Bool)
  | nullInLabel
deriving Repr, Inhabited, DecidableEq

/-- The words for a fault. -/
def Fault.message : Fault → String
  | .mixedSegments true => "'<' not supported between instances of 'int' and 'NoneType'"
  | .mixedSegments false => "'<' not supported between instances of 'NoneType' and 'int'"
  | .nullInLabel => "embedded null character"

/-- A parameter: its name in lower case, and its value. -/
structure Parameter where
  name : List Char
  value : List Char
deriving Repr, Inhabited, DecidableEq

/-- Put a character in front of the first piece. -/
def prependToFirst (c : Char) : List (List Char) → List (List Char)
  | [] => [[c]]
  | first :: others => (c :: first) :: others

/-- Cut a list of parameters at the semicolons outside quotes.  A quote after a backslash is a
character like any other. -/
def pieces : Bool → List Char → List (List Char)
  | _, [] => [[]]
  | inQuotes, '\\' :: '"' :: rest =>
      prependToFirst '\\' (prependToFirst '"' (pieces inQuotes rest))
  | inQuotes, c :: rest =>
      if c = ';' ∧ ¬ inQuotes then [] :: pieces false rest
      else prependToFirst c (pieces (if c = '"' then !inQuotes else inQuotes) rest)

/-- Read a parameter; without an equals sign its value is empty. -/
def Parameter.ofPiece (piece : List Char) : Parameter :=
  let (name, value) := (Text.cutAt '=' piece).getD (piece, [])
  { name := Text.lowerFrom [] (Text.trimList Text.isBlank name)
    value := Text.trimList Text.isBlank value }

/-- The parameters of a content type.  The type itself counts as the first one. -/
def parameters (contentType : List Char) : List Parameter :=
  (pieces false contentType).map Parameter.ofPiece

/-- Undo the escapes of one kind: a backslash in front of a mark. -/
def unescape (mark : Char) : List Char → List Char
  | '\\' :: c :: rest =>
      if c = mark then mark :: unescape mark rest else '\\' :: unescape mark (c :: rest)
  | c :: rest => c :: unescape mark rest
  | [] => []

/-- The inside of a text between two marks. -/
def between? (opening closing : Char) (cs : List Char) : Option (List Char) :=
  if 2 ≤ cs.length ∧ cs.head? = some opening ∧ cs.getLast? = some closing then
    some (cs.drop 1).dropLast
  else none

/-- Take off a pair of double quotes and the escapes between them, or a pair of angle brackets.
Escaped backslashes are looked at first, and quotes after all of them. -/
def unquote (cs : List Char) : List Char :=
  match between? '"' '"' cs, between? '<' '>' cs with
  | some inside, _ => unescape '"' (unescape '\\' inside)
  | none, some inside => inside
  | none, none => cs

/-- A part of a value: its number if it has one, its text, and whether the text has escapes. -/
structure Segment where
  number : Option Nat
  text : List Char
  escaped : Bool
deriving Repr, Inhabited, DecidableEq

/-- A character of a name that comes in segments. -/
def isNameChar (c : Char) : Bool :=
  c.isAlphanum || c == '_'

/-- The number of a segment, if it has one, in the part of a name after the first star. -/
def segmentNumber? (suffix : List Char) : Option (Option Nat) :=
  let digits := if suffix.getLast? = some '*' then suffix.dropLast else suffix
  if suffix.isEmpty then some none
  else if !digits.isEmpty && digits.all Char.isDigit then
    some (some (digits.foldl (fun n c => 10 * n + (c.toNat - 0x30)) 0))
  else none

/-- The name and the segment of a parameter whose name has a star, with a number and another star
if they are given.  A star at the end says that the text has escapes. -/
def Parameter.segment? (parameter : Parameter) : Option (List Char × Segment) := do
  let (name, suffix) ← Text.cutAt '*' parameter.name
  let number ← segmentNumber? suffix
  if name.isEmpty || !name.all isNameChar then none
  else
    some
      (name,
        { number := number
          text := unquote parameter.value
          escaped := parameter.name.getLast? == some '*' })

/-- The segments of one name, in the order in which they are given. -/
def segmentsOf (name : List Char) (segments : List (List Char × Segment)) : List Segment :=
  (segments.filter fun entry => entry.1 = name).map Prod.snd

/-- Segments of one name must all have a number, or none of them. -/
def mixedFault? (segments : List Segment) : Option Fault :=
  match segments with
  | [] => none
  | first :: others =>
      (others.find? fun segment => segment.number.isSome != first.number.isSome).map fun segment =>
        .mixedSegments segment.number.isSome

/-- Segments are put in order by their numbers, those of one number by their texts. -/
def Segment.isUpTo (one other : Segment) : Bool :=
  if one.number = other.number then
    if one.text = other.text then !one.escaped || other.escaped else decide (one.text < other.text)
  else one.number.getD 0 ≤ other.number.getD 0

/-- Undo the escapes of a segment: a percent sign and the digits of a byte stand for the character
with its number. -/
def decodeEscapes : List Char → List Char
  | '%' :: high :: low :: rest =>
      match Text.Hex.byte? high low with
      | some b => Char.ofNat b.toNat :: decodeEscapes rest
      | none => '%' :: decodeEscapes (high :: low :: rest)
  | c :: rest => c :: decodeEscapes rest
  | [] => []

/-- The whole text of segments, and whether some of them have escapes. -/
def joinSegments (segments : List Segment) : List Char × Bool :=
  let texts := (segments.mergeSort Segment.isUpTo).map fun segment =>
    if segment.escaped then decodeEscapes segment.text else segment.text
  (texts.flatten, segments.any Segment.escaped)

/-- The bytes of a text whose characters are all below 0x100. -/
def bytes? (cs : List Char) : Option (List UInt8) :=
  cs.mapM fun c => if c.toNat < 0x100 then some c.toNat.toUInt8 else none

/-- The label in a text with escapes: the character set in which it is written, a language and the
label, with single quotes between them; or a label in ASCII.  What cannot be read in its character
set is taken as it is. -/
def escapedLabel? (text : List Char) : Except Fault (Option (List Char)) :=
  let parts := do
    let (charset, rest) ← Text.cutAt '\'' text
    let (_, label) ← Text.cutAt '\'' rest
    pure (charset, label)
  let (charset, label) := parts.getD ([], text)
  if charset.contains (Char.ofNat 0) then .error .nullInLabel
  else
    let named := Charset.ofLabel? (if charset.isEmpty then "us-ascii".toList else charset)
    .ok ((bytes? label).map fun bytes =>
      (named.bind fun set => set.decodeStrict? bytes).getD label)

/-- The label of the character set among parameters: of the first one with the name, or else in
segments. -/
def label? : List Parameter → Except Fault (Option (List Char))
  | [] => .ok none
  | type :: others =>
      let segments := others.filterMap Parameter.segment?
      let names := (segments.map Prod.fst).eraseDups
      match names.findSome? fun name => mixedFault? (segmentsOf name segments) with
      | some fault => .error fault
      | none =>
          let plain := type :: others.filter fun parameter => parameter.segment?.isNone
          let isCharset := fun name : List Char => name = "charset".toList
          match plain.find? fun parameter => isCharset parameter.name with
          | some parameter => .ok (some (unquote parameter.value))
          | none =>
              match segmentsOf "charset".toList segments with
              | [] => .ok none
              | found =>
                  match joinSegments found with
                  | (text, true) => escapedLabel? text
                  | (text, false) => .ok (some text)

/-- The character set that a content type names, if it names a known one.  Labels are in ASCII. -/
def charset? (contentType : String) : Except Fault (Option Charset) := do
  match ← label? (parameters contentType.toList) with
  | none => pure none
  | some label =>
      if label.any fun c => 0x80 ≤ c.toNat then pure none
      else if label.contains (Char.ofNat 0) then throw .nullInLabel
      else pure (Charset.ofLabel? label)

end ReviewGroups.Http.ContentType
