/-
Module: ReviewGroups.Charset.Escape
Purpose: Texts in which a backslash starts an escape for a character, and every other byte is the
  character with its number.
Trusted boundary: none; escapes by the name of a character are taken as malformed
Main exports: Escape.read, Escape.readPlain
-/
import ReviewGroups.Charset.Piece
import ReviewGroups.Text.Utf16

namespace ReviewGroups.Charset.Escape

/-- The value of a hexadecimal digit. -/
def hexDigit? (b : Nat) : Option Nat :=
  if b < 0x80 then Text.Hex.value? (Char.ofNat b) else none

/-- The value of an octal digit. -/
def octalDigit? (b : Nat) : Option Nat :=
  if 0x30 ≤ b ∧ b ≤ 0x37 then some (b - 0x30) else none

/-- The digits in front, `limit` of them at most. -/
def leading (digit? : Nat → Option Nat) (limit : Nat) (bytes : List Nat) : List Nat :=
  ((bytes.take limit).map digit?).takeWhile Option.isSome |>.map (·.getD 0)

/-- The number that digits to a base write. -/
def value (base : Nat) (digits : List Nat) : Nat :=
  digits.foldl (fun n digit => base * n + digit) 0

/-- The number of a code point in `width` hexadecimal digits, after a backslash and a letter.  What
is malformed ends before the first byte that is no digit. -/
def codePoint (width : Nat) (bytes : List Nat) : Piece Unit Nat :=
  let digits := leading hexDigit? width bytes
  if digits.length = width then
    if value 16 digits ≤ 0x10FFFF then .found [value 16 digits] (2 + width) ()
    else .malformed (2 + width)
  else if digits.length = bytes.length then .cutOff
  else .malformed (2 + digits.length)

/-- What a letter or mark after a backslash stands for. -/
def short? (b : Nat) : Option (List Nat) :=
  match Char.ofNat b with
  | '\n' => some []
  | '\\' => some [0x5C]
  | '\'' => some [0x27]
  | '"' => some [0x22]
  | 'a' => some [0x07]
  | 'b' => some [0x08]
  | 't' => some [0x09]
  | 'n' => some [0x0A]
  | 'v' => some [0x0B]
  | 'f' => some [0x0C]
  | 'r' => some [0x0D]
  | _ => none

/-- An escape by name, after a backslash and a letter: it reaches to the closing brace, unless there
is no name. -/
def named : List Nat → Piece Unit Nat
  | [] => .cutOff
  | 0x7B :: rest =>
      let name := rest.takeWhile (· != 0x7D)
      if name.length = rest.length then .cutOff
      else if name.isEmpty then .malformed 3
      else .malformed (name.length + 4)
  | _ => .malformed 2

/-- The piece in front of a text with all escapes.  After a backslash, a byte without a meaning of
its own stands for itself, and so does the backslash. -/
def piece (_ : Unit) : List Nat → Piece Unit Nat
  | 0x5C :: b :: rest =>
      match short? b, octalDigit? b with
      | some meant, _ => .found meant 2 ()
      | none, some _ =>
          let digits := leading octalDigit? 3 (b :: rest)
          .found [value 8 digits] (1 + digits.length) ()
      | none, none =>
          if b = 0x78 then codePoint 2 rest
          else if b = 0x75 then codePoint 4 rest
          else if b = 0x55 then codePoint 8 rest
          else if b = 0x4E then named rest
          else .found [0x5C, b] 2 ()
  | [0x5C] => .cutOff
  | b :: _ => .found [b] 1 ()
  | [] => .cutOff

/-- The piece in front of a text in which only code points are escaped. -/
def plainPiece (_ : Unit) : List Nat → Piece Unit Nat
  | 0x5C :: b :: rest =>
      if b = 0x75 then codePoint 4 rest
      else if b = 0x55 then codePoint 8 rest
      else .found [0x5C, b] 2 ()
  | b :: _ => .found [b] 1 ()
  | [] => .cutOff

/-- Code points as characters; two halves of a pair in a row are one, a half on its own is none. -/
def join : List (Option Nat) → Units
  | some high :: some low :: rest =>
      if Text.Utf16.isHigh high && Text.Utf16.isLow low then
        some (Text.Utf16.join high low) :: join rest
      else Text.Utf16.single? high :: join (some low :: rest)
  | some n :: rest => Text.Utf16.single? n :: join rest
  | none :: rest => none :: join rest
  | [] => []

/-- Read a text with all escapes. -/
def read (bytes : List UInt8) : Units :=
  join (readPieces piece () (numbers bytes)).units

/-- Read a text in which only code points are escaped. -/
def readPlain (bytes : List UInt8) : Units :=
  join (readPieces plainPiece () (numbers bytes)).units

end ReviewGroups.Charset.Escape
