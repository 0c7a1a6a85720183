/-
Module: ReviewGroups.Url.Label
Purpose: Host names beyond ASCII: what their labels may hold, their form in ASCII, and back.
Trusted boundary: none
Main exports: LabelFault, LabelFault.message, Label.check, Label.toAscii, Label.ofAscii,
  HostName.toAscii, HostName.ofAscii
-/
import ReviewGroups.Text.Direction
import ReviewGroups.Text.Normal
import ReviewGroups.Text.Quoted
import ReviewGroups.Url.LabelChart
import ReviewGroups.Url.Punycode

namespace ReviewGroups

open Text (Direction)

/-- Why a host name is not taken.  Places are counted from one. -/
inductive LabelFault where
  | nameTooLong
  | nameEmpty
  | tooLong
  | empty
  | notComposed
  | innerHyphens
  | outerHyphen
  | initialMark
  | joiner (point place : Nat) (label : List Nat)
  | context (point place : Nat) (label : List Nat)
  | notPermitted (point place : Nat) (label : List Nat)
  | unknownDirection (place : Nat) (label : List Nat)
  | firstDirection (label : List Nat)
  | notRightToLeft (place : Nat)
  | mixedDigits
  | notLeftToRight (place : Nat)
  | lastDirection
  | nothingEncoded
  | encodedHyphen
  | notEncoded
deriving Repr, Inhabited, DecidableEq

namespace LabelFault

/-- A code point by its number. -/
def pointText (n : Nat) : String :=
  let digits := (Nat.toDigits 16 n).map Char.toUpper
  "U+" ++ String.ofList (List.replicate (4 - digits.length) '0' ++ digits)

/-- The words for a fault. -/
def message : LabelFault → String
  | .nameTooLong => "Domain too long"
  | .nameEmpty => "Empty domain"
  | .tooLong => "Label too long"
  | .empty => "Empty Label"
  | .notComposed => "Label must be in Normalization Form C"
  | .innerHyphens => "Label has disallowed hyphens in 3rd and 4th position"
  | .outerHyphen => "Label must not start or end with a hyphen"
  | .initialMark => "Label begins with an illegal combining character"
  | .joiner point place label =>
      s!"Unknown codepoint adjacent to joiner {pointText point} at position {place} in " ++
        Text.quotedPoints label
  | .context point place label =>
      s!"Codepoint {pointText point} not allowed at position {place} in " ++
        Text.quotedPoints label
  | .notPermitted point place label =>
      s!"Codepoint {pointText point} at position {place} of {Text.quotedPoints label} not allowed"
  | .unknownDirection place label =>
      s!"Unknown directionality in label {Text.quotedPoints label} at position {place}"
  | .firstDirection label =>
      s!"First codepoint in label {Text.quotedPoints label} must be directionality L, R or AL"
  | .notRightToLeft place =>
      s!"Invalid direction for codepoint at position {place} in a right-to-left label"
  | .mixedDigits => "Can not mix numeral types in a right-to-left label"
  | .notLeftToRight place =>
      s!"Invalid direction for codepoint at position {place} in a left-to-right label"
  | .lastDirection => "Label ends with illegal codepoint directionality"
  | .nothingEncoded => "Malformed A-label, no Punycode eligible content found"
  | .encodedHyphen => "A-label must not end with a hyphen"
  | .notEncoded => "Invalid A-label"

end LabelFault

namespace Url

namespace Label

/-- The class of marks that take the vowel off a letter. -/
def viramaClass : Nat := 9

/-- The first of some code points that joins at all, if it joins in one of the ways. -/
def joinsFirst (ways : List LabelChart.Joining) (points : List Nat) : Bool :=
  match points.map LabelChart.joining? |>.dropWhile (· == some .transparent) with
  | some way :: _ => way ∈ ways
  | _ => false

/-- A joiner may stand after a mark that takes off a vowel; one that keeps letters apart may stand
also between letters that would join.  `before` holds the code points before it, the last one
first. -/
def joinerFits (point : Nat) (before after : List Nat) : Bool :=
  match before with
  | [] => false
  | last :: _ =>
      if Text.combiningClass last = viramaClass then true
      else if Text.combiningClass last = 0 ∧ Text.direction? last = none then false
      else
        point == 0x200C && joinsFirst [.left, .both] before && joinsFirst [.right, .both] after

/-- Between the two code points. -/
def isWithin (first last n : Nat) : Bool := first ≤ n && n ≤ last

/-- A code point that may stand only beside certain others stands there. -/
def contextFits (point : Nat) (before after : List Nat) : Bool :=
  if point = 0xB7 then before.head? == some 0x6C && after.head? == some 0x6C
  else if point = 0x375 then after.head?.any LabelChart.greek.holds
  else if point = 0x5F3 ∨ point = 0x5F4 then before.head?.any LabelChart.hebrew.holds
  else if point = 0x30FB then
    before.any (fun n => n != 0x30FB && LabelChart.japanese.holds n) ||
      after.any (fun n => n != 0x30FB && LabelChart.japanese.holds n)
  else if isWithin 0x660 0x669 point then
    !before.any (isWithin 0x6F0 0x6F9) && !after.any (isWithin 0x6F0 0x6F9)
  else if isWithin 0x6F0 0x6F9 point then
    !before.any (isWithin 0x660 0x669) && !after.any (isWithin 0x660 0x669)
  else false

/-- Every code point may stand where it stands.  `before` holds the code points before the rest, the
last one first. -/
def checkPoints (label before : List Nat) : List Nat → Except LabelFault Unit
  | [] => .ok ()
  | point :: after =>
      let place := before.length + 1
      if LabelChart.permitted.holds point then checkPoints label (point :: before) after
      else if LabelChart.joiners.holds point then
        if joinerFits point before after then checkPoints label (point :: before) after
        else .error (.joiner point place label)
      else if LabelChart.contextual.holds point then
        if contextFits point before after then checkPoints label (point :: before) after
        else .error (.context point place label)
      else .error (.notPermitted point place label)

/-- The directions of the code points of a label. -/
def directions (label : List Nat) : Nat → List Nat → Except LabelFault (List Direction)
  | _, [] => .ok []
  | place, point :: points =>
      match Text.direction? point with
      | none => .error (.unknownDirection place label)
      | some direction => (directions label (place + 1) points).map (direction :: ·)

/-- The directions of which one makes a label run from right to left. -/
def turns (direction : Direction) : Bool :=
  direction == .right || direction == .arabic || direction == .arabicNumber

/-- What may stand in a label of either direction beside its own letters and digits. -/
def isNeutral (direction : Direction) : Bool :=
  direction ∈ [.europeanNumber, .europeanSeparator, .commonSeparator, .europeanTerminator, .neutral,
    .boundary, .mark]

/-- Whether a label may end after a code point, given whether it might end before. -/
def mayEnd (ends : List Direction) (before : Bool) (direction : Direction) : Bool :=
  if direction ∈ ends then true else if direction = .mark then before else false

/-- The rules of a label from right to left, from a place on: its end, and one kind of digits. -/
def checkRightToLeft (ended : Bool) (digits : Option Direction) :
    Nat → List Direction → Except LabelFault Unit
  | _, [] => if ended then .ok () else .error .lastDirection
  | place, direction :: rest =>
      if !turns direction && !isNeutral direction then .error (.notRightToLeft place)
      else
        let isDigit := direction == .arabicNumber || direction == .europeanNumber
        if isDigit && digits.any (· != direction) then .error .mixedDigits
        else
          checkRightToLeft
            (mayEnd [.right, .arabic, .europeanNumber, .arabicNumber] ended direction)
            (if isDigit then some direction else digits) (place + 1) rest

/-- The rules of a label from left to right, from a place on. -/
def checkLeftToRight (ended : Bool) : Nat → List Direction → Except LabelFault Unit
  | _, [] => if ended then .ok () else .error .lastDirection
  | place, direction :: rest =>
      if direction ≠ .left ∧ !isNeutral direction then .error (.notLeftToRight place)
      else checkLeftToRight (mayEnd [.left, .europeanNumber] ended direction) (place + 1) rest

/-- A label with a code point that runs from right to left keeps to one direction. -/
def checkDirections (label : List Nat) : Except LabelFault Unit := do
  let found ← directions label 1 label
  if found.any turns then
    match found.head? with
    | some .right | some .arabic => checkRightToLeft false none 1 found
    | some .left => checkLeftToRight false 1 found
    | _ => throw (.firstDirection label)

/-- The longest label or name that is looked at. -/
def lengthLimit : Nat := 254

/-- The longest label in ASCII. -/
def asciiLimit : Nat := 63

/-- A hyphen. -/
def hyphen : Nat := 0x2D

/-- A label is in order. -/
def check (label : List Nat) : Except LabelFault Unit := do
  if label.isEmpty then throw .empty
  if lengthLimit < label.length then throw .tooLong
  if Text.Normal.composed label ≠ label then throw .notComposed
  if (label.drop 2).take 2 = [hyphen, hyphen] then throw .innerHyphens
  if label.head? = some hyphen ∨ label.getLast? = some hyphen then throw .outerHyphen
  if label.head?.any Text.isMark then throw .initialMark
  checkPoints label [] label
  checkDirections label

/-- What labels that stand for others start with. -/
def encodedMark : List Char := "xn--".toList

/-- The label that a label in ASCII stands for. -/
def ofAscii (label : List Char) : Except LabelFault (List Nat) := do
  let lower := label.map Char.toLower
  if encodedMark.isPrefixOf lower then
    let encoded := lower.drop encodedMark.length
    if encoded.isEmpty then throw .nothingEncoded
    if encoded.getLast? = some '-' then throw .encodedHyphen
    match Punycode.decode? encoded with
    | none => throw .notEncoded
    | some decoded =>
        check decoded
        pure decoded
  else
    let plain := lower.map Char.toNat
    check plain
    pure plain

/-- A label in ASCII: as it is, or the encoded form of what is beyond. -/
def toAscii (label : List Char) : Except LabelFault (List Char) := do
  let ascii ←
    if label.all (·.toNat < 0x80) then do
      let _ ← ofAscii label
      pure label
    else do
      let points := label.map Char.toNat
      check points
      pure (encodedMark ++ Punycode.encode points)
  if asciiLimit < ascii.length then throw .tooLong else pure ascii

end Label

namespace HostName

/-- What stands between labels: the full stop, and those of Chinese and Japanese text. -/
def isDot (c : Char) : Bool :=
  c == '.' || c.toNat == 0x3002 || c.toNat == 0xFF0E || c.toNat == 0xFF61

/-- The labels of a name, and whether a dot follows the last one. -/
def labels (name : List Char) : Except LabelFault (List (List Char) × Bool) :=
  let pieces := Text.splitAt '.' (name.map fun c => if isDot c then '.' else c)
  if Label.lengthLimit < name.length then .error .nameTooLong
  else if pieces = [[]] then .error .nameEmpty
  else if pieces.getLast? = some [] then .ok (pieces.dropLast, true)
  else .ok (pieces, false)

/-- A name in ASCII. -/
def toAscii (name : List Char) : Except LabelFault (List Char) := do
  let (pieces, dotted) ← labels name
  let written ← pieces.mapM Label.toAscii
  let ascii := List.intercalate ['.'] (if dotted then written ++ [[]] else written)
  let limit := if dotted then Label.lengthLimit else Label.lengthLimit - 1
  if limit < ascii.length then throw .nameTooLong else pure ascii

/-- The name that a name in ASCII stands for. -/
def ofAscii (name : List Char) : Except LabelFault (List Char) := do
  let (pieces, dotted) ← labels name
  let read ← pieces.mapM Label.ofAscii
  let texts := read.map fun label => label.map Char.ofNat
  pure (List.intercalate ['.'] (if dotted then texts ++ [[]] else texts))

end HostName

end Url

end ReviewGroups
