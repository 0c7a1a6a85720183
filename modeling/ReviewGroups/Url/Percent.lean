/-
Module: ReviewGroups.Url.Percent
Purpose: Percent encoding of text as UTF-8, with a free choice of the characters that stay.
Trusted boundary: none
Main exports: isUnreserved, escapeByte, encode, decodeBytes, decode
-/
import ReviewGroups.Text.Hex
import ReviewGroups.Text.Utf8

namespace ReviewGroups.Url.Percent

/-- The characters that never need an escape. -/
def isUnreserved (c : Char) : Bool :=
  c.isAlphanum || c == '_' || c == '.' || c == '-' || c == '~'

/-- The escape of one byte. -/
def escapeByte (b : UInt8) : List Char :=
  ['%', Text.Hex.upperDigit (b.toNat / 16), Text.Hex.upperDigit (b.toNat % 16)]

/-- The escapes of the UTF-8 bytes of a character. -/
def escapeChar (c : Char) : List Char :=
  (Text.Utf8.encodeChar c).flatMap escapeByte

/-- Escape every character that is not to stay. -/
def encode (stays : Char → Bool) (cs : List Char) : List Char :=
  cs.flatMap fun c => if stays c then [c] else escapeChar c

/-- The bytes of a text, escapes undone.  A percent sign without two digits stands for itself. -/
def decodeBytes : List Char → List UInt8
  | '%' :: high :: low :: rest =>
      match Text.Hex.byte? high low with
      | some b => b :: decodeBytes rest
      | none => Text.Utf8.encodeChar '%' ++ decodeBytes (high :: low :: rest)
  | c :: rest => Text.Utf8.encodeChar c ++ decodeBytes rest
  | [] => []

/-- Undo escapes; what is not UTF-8 then becomes U+FFFD. -/
def decode (cs : List Char) : List Char :=
  Text.Utf8.decodeReplacing (decodeBytes cs)

end ReviewGroups.Url.Percent
