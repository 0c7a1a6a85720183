/-
Module: ReviewGroups.Charset.Unicode
Purpose: The character sets that write every character: in units of some bits, with escapes, or as
  the ASCII form of a host name's label.
Trusted boundary: none
Main exports: Charset.utf8, Charset.unicode
-/
import ReviewGroups.Charset.Escape
import ReviewGroups.Text.Utf32
import ReviewGroups.Text.Utf7
import ReviewGroups.Text.Utf8
import ReviewGroups.Url.Punycode

namespace ReviewGroups.Charset

/-- UTF-8. -/
def utf8 : Charset where
  names := ["utf_8"]
  aliases := ["cp65001", "u8", "utf", "utf8", "utf8_ucs2", "utf8_ucs4"]
  read := Text.Utf8.units

/-- The bytes after a signature in UTF-8, whole or cut off by the end. -/
def dropSignature : List UInt8 → List UInt8
  | 0xEF :: 0xBB :: 0xBF :: rest => rest
  | [0xEF, 0xBB] => []
  | [0xEF] => []
  | bytes => bytes

/-- Read bytes that may start with a mark of their order; without one the lesser byte is first. -/
def readMarked (marked? : List UInt8 → Option (Text.ByteOrder × List UInt8))
    (read : Text.ByteOrder → List UInt8 → Units) (bytes : List UInt8) : Units :=
  match marked? bytes with
  | some (order, rest) => read order rest
  | none => read .little bytes

/-- A body needs the mark, as soon as there is a whole unit. -/
def unmarked? (marked? : List UInt8 → Option (Text.ByteOrder × List UInt8)) (size : Nat)
    (fault : Fault) (bytes : List UInt8) : Option Fault :=
  if size ≤ bytes.length && (marked? bytes).isNone then some fault else none

/-- The parts of a label in ASCII: what stands before the last hyphen, and the digits after it. -/
def labelParts (bytes : List UInt8) : List UInt8 × List UInt8 :=
  let digits := (bytes.reverse.takeWhile (· != 0x2D)).reverse
  (bytes.take (bytes.length - digits.length - 1), digits)

/-- Read a label in ASCII.  What stands before the digits is read byte by byte. -/
def readLabel (bytes : List UInt8) : Units :=
  let (plain, digits) := labelParts bytes
  let points := plain.map fun b => if b < 0x80 then b.toNat else standIn.toNat
  (Url.Punycode.readLeniently ⟨points, 0x80, 0, 72⟩ true
    (digits.map fun b => Char.ofNat b.toNat)).map Text.Utf16.single?

/-- The first byte beyond ASCII among the digits of a label. -/
def digitBeyondAscii? (bytes : List UInt8) : Option Fault :=
  let digits := (labelParts bytes).2
  (digits.findIdx? (0x80 ≤ ·)).bind fun place =>
    (digits[place]?).map fun byte => .beyondAscii byte place

/-- A set whose labels are known, though it reads no bytes. -/
def refused (names aliases : List String) (fault : Fault) : Charset where
  names := names
  aliases := aliases
  read := fun _ => [none]
  refusal? := fun _ => some fault

/-- The sets that write every character. -/
def unicode : List Charset := [
    utf8,
    { names := ["utf_8_sig"]
      read := fun bytes => Text.Utf8.units (dropSignature bytes) },
    { names := ["utf_7"]
      aliases := ["u7", "unicode_1_1_utf_7", "utf7"]
      read := Text.Utf7.units },
    { names := ["utf_16"]
      aliases := ["u16", "utf16"]
      read := readMarked Text.Utf16.marked? Text.Utf16.units
      refusal? := unmarked? Text.Utf16.marked? 2 .unmarked16 },
    { names := ["utf_16_le"]
      aliases := ["unicodelittleunmarked", "utf_16le"]
      read := Text.Utf16.units .little },
    { names := ["utf_16_be"]
      aliases := ["unicodebigunmarked", "utf_16be"]
      read := Text.Utf16.units .big },
    { names := ["utf_32"]
      aliases := ["u32", "utf32"]
      read := readMarked Text.Utf32.marked? Text.Utf32.units
      refusal? := unmarked? Text.Utf32.marked? 4 .unmarked32 },
    { names := ["utf_32_le"]
      aliases := ["utf_32le"]
      read := Text.Utf32.units .little },
    { names := ["utf_32_be"]
      aliases := ["utf_32be"]
      read := Text.Utf32.units .big },
    { names := ["unicode_escape"]
      read := Escape.read },
    { names := ["raw_unicode_escape"]
      read := Escape.readPlain },
    { names := ["punycode"]
      read := readLabel
      refusal? := digitBeyondAscii? }]

/-- Sets from texts to texts, or from bytes to bytes, and sets that read nothing. -/
def refusing : List Charset := [
    refused ["base64_codec"] ["base64", "base_64"] .notText,
    refused ["bz2_codec"] ["bz2"] .notText,
    refused ["hex_codec"] ["hex"] .notText,
    refused ["quopri_codec"] ["quopri", "quoted_printable", "quotedprintable"] .notText,
    refused ["uu_codec"] ["uu"] .notText,
    refused ["zlib_codec"] ["zip", "zlib"] .notText,
    refused ["rot_13"] ["rot13"] .notBytes,
    refused ["undefined"] [] .withheld,
    refused ["idna"] [] .noStandIn]

end ReviewGroups.Charset
