/-
Module: ReviewGroups.Charset.Japanese
Purpose: The character sets for Japanese, of fixed width and of bytes that shift.
Trusted boundary: the lists of codes
Main exports: jis0208Text?, jis0212Text?, jis0213Text?, jis0213SecondText?, romanChar?, kanaChar?,
  Charset.japanese
-/
import ReviewGroups.Charset.Jis0208Chart
import ReviewGroups.Charset.Jis0212Chart
import ReviewGroups.Charset.Jis0213Chart
import ReviewGroups.Charset.ShiftJisChart

namespace ReviewGroups.Charset

/-- The two years of JIS X 0213, of which the later one adds ten characters. -/
inductive JisYear where
  | former
  | latter
deriving Repr, Inhabited, DecidableEq

/-- The character of JIS X 0208 in a row and a column from 0x21 on. -/
def jis0208Text? (first second : Nat) : Option (List Char) :=
  jis0208Grid.text? first second

/-- The character of JIS X 0212 in a row and a column from 0x21 on. -/
def jis0212Text? (first second : Nat) : Option (List Char) :=
  if first = 0x22 ∧ second = 0x37 then some ['~'] else jis0212Grid.text? first second

/-- Characters of JIS X 0213 that are written with a mark of their own, or do not show. -/
def jis0213Codes : CodeList := .ofRows [
    "2477=304B+309A 2478=304D+309A 2479=304F+309A 247A=3051+309A 247B=3053+309A 2577=30AB+309A",
    "2578=30AD+309A 2579=30AF+309A 257A=30B1+309A 257B=30B3+309A 257C=30BB+309A 257D=30C4+309A",
    "257E=30C8+309A 2678=31F7+309A 2922=A0 2929=AD 2B44=E6+300 2B48=254+300 2B49=254+301",
    "2B4A=28C+300 2B4B=28C+301 2B4C=259+300 2B4D=259+301 2B4E=25A+300 2B4F=25A+301 2B52=361",
    "2B57=306 2B59=30B 2B5A=301 2B5B=304 2B5C=300 2B5D=30F 2B5E=30C 2B5F=302 2B65=2E9+2E5",
    "2B66=2E5+2E9 2B67=325 2B68=32C 2B69=339 2B6A=31C 2B6B-2B6C=31F 2B6D=308 2B6E=33D 2B6F=329",
    "2B70=32F 2B72=324 2B73=330 2B74=33C 2B75=334 2B76-2B77=31D 2B78-2B79=318 2B7A=32A",
    "2B7B-2B7C=33A 2B7D=303 2B7E=31A"]

/-- What the latter year adds to the first plane. -/
def latterCodes : CodeList := .ofRows [
    "2E21=4FF1 2F7E=525D 4F54=20B9F 4F7E=541E 7427=5653 7E7A=59F8 7E7B=5C5B 7E7C=5E77 7E7D=7626",
    "7E7E=7E6B"]

/-- The character of the first plane of JIS X 0213 in a row and a column from 0x21 on. -/
def jis0213Text? (year : JisYear) (first second : Nat) : Option (List Char) :=
  (if year = .latter then latterCodes.text? (code first second) else none)
    <|> jis0208Text? first second
    <|> jis0213Grid.text? first second
    <|> jis0213Codes.text? (code first second)

/-- The character of the second plane of JIS X 0213 in a row and a column from 0x21 on; one of them
has another form in the latter year. -/
def jis0213SecondText? (year : JisYear) (first second : Nat) : Option (List Char) :=
  if year = .latter ∧ first = 0x7D ∧ second = 0x3B then some [Char.ofNat 0x9B1C]
  else jis0213SecondGrid.text? first second

/-- The character of a byte in the Japanese form of ASCII. -/
def romanChar? (b : Nat) : Option Char :=
  if b = 0x5C then some (Char.ofNat 0xA5)
  else if b = 0x7E then some (Char.ofNat 0x203E)
  else if b < 0x80 then some (Char.ofNat b)
  else none

/-- The narrow syllable of a byte. -/
def kanaChar? (b : Nat) : Option Char :=
  if 0xA1 ≤ b ∧ b ≤ 0xDF then some (Char.ofNat (0xFEC0 + b)) else none

/-- The text of a piece of some bytes, or else one malformed byte. -/
def pieceOf (taken : Nat) : Option (List Char) → Piece Unit Char
  | some cs => .found cs taken ()
  | none => .malformed 1

/-- The piece of a pair of JIS X 0208. -/
def jis0208Piece (first second : Nat) : Piece Unit Char :=
  pieceOf 2 (jis0208Text? first second)

/-- The piece of a pair of the first plane of JIS X 0213.  In the former year, the pairs that the
latter one adds are malformed as a whole. -/
def jis0213Piece (year : JisYear) (first second : Nat) : Piece Unit Char :=
  if year = .former ∧ latterCodes.holds (code first second) then .malformed 2
  else pieceOf 2 (jis0213Text? year first second)

/-- The piece in front of bytes that are ASCII, pairs from 0xA1 on, a narrow syllable after one
mark, or a pair of a second set after another mark. -/
def markedPiece (pair : Nat → Nat → Piece Unit Char)
    (second? : Nat → Nat → Option (List Char)) (_ : Unit) : List Nat → Piece Unit Char
  | [] => .cutOff
  | a :: rest =>
      if a < 0x80 then .found [Char.ofNat a] 1 ()
      else
        match rest with
        | [] => .cutOff
        | b :: others =>
            if a = 0x8E then pieceOf 2 ((kanaChar? b).map fun c => [c])
            else if a = 0x8F then
              match others with
              | [] => .cutOff
              | c :: _ =>
                  if b < 0x80 ∨ c < 0x80 then .malformed 1
                  else pieceOf 3 (second? (b - 0x80) (c - 0x80))
            else if b < 0x80 then .malformed 1
            else pair (a - 0x80) (b - 0x80)

/-- The number of a first byte among those that start a pair. -/
def shiftedRow? (first : Nat) : Option Nat :=
  if 0x81 ≤ first ∧ first < 0xA0 then some (first - 0x81)
  else if 0xE0 ≤ first ∧ first < 0xFD then some (first - 0xC1)
  else none

/-- The row and the column of a pair, counted from zero: each first byte has two rows. -/
def shiftedPlace? (first second : Nat) : Option (Nat × Nat) :=
  if 0x40 ≤ second ∧ second < 0xFD ∧ second ≠ 0x7F then
    let column := if second < 0x80 then second - 0x40 else second - 0x41
    (shiftedRow? first).map fun row => (2 * row + column / 94, column % 94)
  else none

/-- The piece in front of bytes that are single ones, or pairs with a shifted place. -/
def shiftedPiece (single? : Nat → Option Char) (pair : Nat → Nat → Piece Unit Char) (_ : Unit) :
    List Nat → Piece Unit Char
  | [] => .cutOff
  | a :: rest =>
      match single? a, shiftedRow? a, rest with
      | some c, _, _ => .found [c] 1 ()
      | none, none, _ => .malformed 1
      | none, some _, [] => .cutOff
      | none, some _, b :: _ =>
          match shiftedPlace? a b with
          | some (row, column) => pair row column
          | none => .malformed 1

/-- The row of the second plane of JIS X 0213 for a row beyond the first plane, from zero on. -/
def secondRow (row : Nat) : Nat :=
  if 0x67 ≤ row then row + 0x07
  else if 0x63 ≤ row ∨ row = 0x5F then row - 0x37
  else row - 0x3D

/-- A backslash and a tilde, which are wide ones where bytes are not shifted. -/
def narrowCodes : CodeList := .ofRows [
    "2140=5C 2232=7E"]

/-- The piece of a pair at a place of both planes. -/
def planesPiece (year : JisYear) (row column : Nat) : Piece Unit Char :=
  if row < 94 then
    match narrowCodes.text? (code (row + 0x21) (column + 0x21)) with
    | some cs => .found cs 2 ()
    | none => jis0213Piece year (row + 0x21) (column + 0x21)
  else pieceOf 2 (jis0213SecondText? year (secondRow row) (column + 0x21))

/-- What one maker reads in another way. -/
def makerChanges : CodeList := .ofRows [
    "8160=FF5E 8161=2225 817C=FF0D 8191-8192=FFE0 81CA=FFE2"]

/-- The rows of the table of makers' characters, counted from zero among all rows. -/
def makerRows : List Nat := [12, 88, 89, 90, 91, 114, 115, 116, 117, 118]

/-- The character of a pair in the form of one maker: its own characters, JIS X 0208, and places for
private use. -/
def makerPairText? (first second : Nat) : Option (List Char) :=
  makerChanges.text? (code first second) <|>
    (shiftedPlace? first second).bind fun (row, column) =>
      ((makerRows.idxOf? row).bind fun own => (makerGrid.char? own column).map fun c => [c])
        <|> (if row < 94 then jis0208Grid.text? (row + 0x21) (column + 0x21) else none)
        <|> (if 0xF0 ≤ first ∧ first < 0xFA then
              some [Char.ofNat (0xE000 + 94 * (row - 94) + column)]
            else none)

/-- The character of a single byte in the form of one maker, with places for private use. -/
def makerSingle? (b : Nat) : Option Char :=
  if b ≤ 0x80 then some (Char.ofNat b)
  else if b = 0xA0 then some (Char.ofNat 0xF8F0)
  else if 0xFD ≤ b then some (Char.ofNat (0xF8F1 + (b - 0xFD)))
  else kanaChar? b

/-- The piece in front of bytes in the form of one maker, in which every other byte starts a
pair. -/
def makerPiece (_ : Unit) : List Nat → Piece Unit Char
  | [] => .cutOff
  | a :: rest =>
      match makerSingle? a, rest with
      | some c, _ => .found [c] 1 ()
      | none, [] => .cutOff
      | none, b :: _ => pieceOf 2 (makerPairText? a b)

/-- The character of a single byte: ASCII, or a narrow syllable. -/
def asciiOrKana? (b : Nat) : Option Char :=
  if b < 0x80 then some (Char.ofNat b) else kanaChar? b

/-- The character of a single byte: the Japanese form of ASCII, or a narrow syllable. -/
def romanOrKana? (b : Nat) : Option Char :=
  romanChar? b <|> kanaChar? b

/-- The piece of a pair at a place of JIS X 0208. -/
def firstPlanePiece (row column : Nat) : Piece Unit Char :=
  jis0208Piece (row + 0x21) (column + 0x21)

/-- The second set of JIS X 0213 after a mark: its second plane, or JIS X 0212. -/
def secondSetText? (year : JisYear) (first second : Nat) : Option (List Char) :=
  jis0213SecondText? year first second <|> jis0212Text? first second

/-- The character sets for Japanese without escape sequences. -/
def japanese : List Charset := [
    { names := ["shift_jis"]
      aliases := ["csshiftjis", "s_jis", "shiftjis", "sjis", "x_mac_japanese"]
      read := readStateless (shiftedPiece asciiOrKana? firstPlanePiece) },
    { names := ["cp932"]
      aliases := ["932", "ms932", "ms_kanji", "mskanji"]
      read := readStateless makerPiece },
    { names := ["shift_jisx0213"]
      aliases := ["s_jisx0213", "shiftjisx0213", "sjisx0213"]
      read := readStateless (shiftedPiece romanOrKana? (planesPiece .former)) },
    { names := ["shift_jis_2004"]
      aliases := ["s_jis_2004", "shiftjis2004", "sjis_2004"]
      read := readStateless (shiftedPiece romanOrKana? (planesPiece .latter)) },
    { names := ["euc_jp"]
      aliases := ["eucjp", "u_jis", "ujis"]
      read := readStateless (markedPiece jis0208Piece jis0212Text?) },
    { names := ["euc_jisx0213"]
      aliases := ["eucjisx0213"]
      read := readStateless (markedPiece (jis0213Piece .former) (secondSetText? .former)) },
    { names := ["euc_jis_2004"]
      aliases := ["euc_jis2004", "eucjis2004", "jisx0213"]
      read := readStateless (markedPiece (jis0213Piece .latter) (secondSetText? .latter)) }]

end ReviewGroups.Charset
