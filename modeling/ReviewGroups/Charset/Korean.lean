/-
Module: ReviewGroups.Charset.Korean
Purpose: The character sets for Korean.
Trusted boundary: none beyond the table of the national set
Main exports: koreanText?, syllable, Charset.korean
-/
import ReviewGroups.Charset.KoreanChart

namespace ReviewGroups.Charset

/-- The character of the Korean national set in a row and a column from 0x21 on; its table does not
show the soft hyphen. -/
def koreanText? (first second : Nat) : Option (List Char) :=
  if first = 0x21 ∧ second = 0x29 then some [Char.ofNat 0xAD]
  else koreanGrid.text? first second

/-- The syllable of an initial consonant, a vowel, and a final consonant or none. -/
def syllable (initial vowel final : Nat) : Char :=
  Char.ofNat (0xAC00 + (initial * 21 + vowel) * 28 + final)

/-- The letters that can start a syllable, by their numbers among the consonants. -/
def initials : List Nat := [0, 1, 3, 6, 7, 8, 16, 17, 18, 20, 21, 22, 23, 24, 25, 26, 27, 28, 29]

/-- The letters that can end a syllable, by their numbers among the consonants. -/
def finals : List Nat :=
  [0, 1, 2, 3, 4, 5, 6, 8, 9, 10, 11, 12, 13, 14, 15, 16, 17, 19, 20, 21, 22, 23, 25, 26, 27, 28,
    29]

/-- The number of a letter's second byte, with letters from 0xA1 on. -/
def consonant? (b : Nat) : Option Nat :=
  if 0xA1 ≤ b ∧ b ≤ 0xBE then some (b - 0xA1) else none

/-- The syllable that three letters make up after a filler; another filler stands for no final
consonant. -/
def madeUp? (initial vowel final : Nat) : Option Char := do
  let initial ← (consonant? initial).bind initials.idxOf?
  let vowel ← if 0xBF ≤ vowel ∧ vowel ≤ 0xD3 then some (vowel - 0xBF) else none
  let final ←
    if final = 0xD4 then some 0
    else ((consonant? final).bind finals.idxOf?).map (· + 1)
  pure (syllable initial vowel final)

/-- The character of a pair with both bytes beyond ASCII. -/
def koreanPair? (first second : Nat) : Option (List Char) :=
  if first < 0x80 ∨ second < 0x80 then none else koreanText? (first - 0x80) (second - 0x80)

/-- The piece in front of bytes that are ASCII, pairs, or eight bytes that make up a syllable: a
filler and three letters. -/
def koreanPiece (_ : Unit) : List Nat → Piece Unit Char
  | 0xA4 :: 0xD4 :: rest =>
      match rest with
      | lead :: initial :: leadVowel :: vowel :: leadFinal :: final :: _ =>
          if lead = 0xA4 ∧ leadVowel = 0xA4 ∧ leadFinal = 0xA4 then
            match madeUp? initial vowel final with
            | some c => .found [c] 8 ()
            | none => .malformed 1
          else .malformed 1
      | _ => .cutOff
  | bytes => pairPiece koreanPair? () bytes

/-- The syllables of the national set, in ascending order. -/
def listedSyllables : List Nat :=
  (koreanGrid.rows.toList.drop 15).take 25 |>.flatMap fun row => row.toList.map Char.toNat

/-- Move a code point up past the listed ones, so that as many unlisted ones lie below it as code
points did before. -/
def skipListed : List Nat → Nat → Nat
  | [], n => n
  | listed :: others, n => if listed ≤ n then skipListed others (n + 1) else n

/-- The second bytes of the extension: letters in either case, and bytes beyond ASCII. -/
def extensionColumn? (second : Nat) : Option Nat :=
  if 0x41 ≤ second ∧ second ≤ 0x5A then some (second - 0x41)
  else if 0x61 ≤ second ∧ second ≤ 0x7A then some (second - 0x47)
  else if 0x81 ≤ second ∧ second ≤ 0xFE then some (second - 0x4D)
  else none

/-- The number of a pair of the extension: whole rows first, and rows that end before the pairs of
the national set after them. -/
def extensionNumber? (first second : Nat) : Option Nat :=
  (extensionColumn? second).bind fun column =>
    if 0x81 ≤ first ∧ first ≤ 0xA0 then some ((first - 0x81) * 178 + column)
    else if 0xA1 ≤ first ∧ first ≤ 0xC6 ∧ column < 84 then
      some (32 * 178 + (first - 0xA1) * 84 + column)
    else none

/-- How many syllables the national set lacks. -/
def unlistedCount : Nat := 8822

/-- The character of a pair in the extended set: after the national set, the syllables it lacks in
ascending order. -/
def extendedKorean? (first second : Nat) : Option (List Char) :=
  koreanPair? first second <|>
    (extensionNumber? first second).bind fun n =>
      if n < unlistedCount then some [Char.ofNat (skipListed listedSyllables (0xAC00 + n))]
      else none

/-- What five bits of a composed code stand for: a letter by its number, none, or nothing at all. -/
inductive Slot where
  | letter (number : Nat)
  | empty
  | invalid
deriving Repr, Inhabited, DecidableEq

/-- The initial consonant of five bits. -/
def initialSlot (bits : Nat) : Slot :=
  if bits = 1 then .empty
  else if 2 ≤ bits ∧ bits ≤ 20 then .letter (bits - 2)
  else .invalid

/-- The vowel of five bits, in groups with two places left out between them. -/
def vowelSlot (bits : Nat) : Slot :=
  if bits = 2 then .empty
  else if 3 ≤ bits ∧ bits ≤ 7 then .letter (bits - 3)
  else if 10 ≤ bits ∧ bits ≤ 15 then .letter (bits - 5)
  else if 18 ≤ bits ∧ bits ≤ 23 then .letter (bits - 7)
  else if 26 ≤ bits ∧ bits ≤ 29 then .letter (bits - 9)
  else .invalid

/-- The final consonant of five bits, with one place left out between two groups. -/
def finalSlot (bits : Nat) : Slot :=
  if bits = 1 then .empty
  else if 2 ≤ bits ∧ bits ≤ 17 then .letter (bits - 1)
  else if 19 ≤ bits ∧ bits ≤ 29 then .letter (bits - 2)
  else .invalid

/-- The letter on its own for the number of a consonant. -/
def consonantChar (number : Nat) : Char :=
  Char.ofNat (0x3131 + number)

/-- The character of a composed code: a syllable, or a single letter. -/
def composed? (initial vowel final : Slot) : Option Char :=
  match initial, vowel, final with
  | .letter i, .letter v, .letter f => some (syllable i v f)
  | .letter i, .letter v, .empty => some (syllable i v 0)
  | .letter i, .empty, .empty => (initials[i]?).map consonantChar
  | .empty, .letter v, .empty => some (Char.ofNat (0x314F + v))
  | .empty, .empty, .letter f => (finals[f - 1]?).map consonantChar
  | .empty, .empty, .empty => some (Char.ofNat 0x3000)
  | _, _, _ => none

/-- The row and column of the national set for a pair after the composed codes: each first byte has
two rows, and the first rows of letters are left out. -/
def composedPlace? (first second : Nat) : Option (Nat × Nat) :=
  let column? :=
    if 0x31 ≤ second ∧ second < 0x7F then some (second - 0x31)
    else if 0x91 ≤ second ∧ second < 0xFF then some (second - 0x43)
    else none
  column?.bind fun column =>
    if first = 0xDA ∧ 0xA1 ≤ second ∧ second ≤ 0xD3 then none
    else if 0xD9 ≤ first ∧ first < 0xDF then
      some (2 * (first - 0xD9) + column / 94 + 0x21, column % 94 + 0x21)
    else if 0xE0 ≤ first ∧ first ≤ 0xF9 then
      some (2 * (first - 0xE0) + column / 94 + 0x4A, column % 94 + 0x21)
    else none

/-- The character of a pair in the composed set. -/
def composedText? (first second : Nat) : Option (List Char) :=
  if first < 0xD8 then
    (composed? (initialSlot (first / 4 % 32)) (vowelSlot (first % 4 * 8 + second / 32))
      (finalSlot (second % 32))).map fun c => [c]
  else (composedPlace? first second).bind fun (row, column) => koreanText? row column

/-- The character sets for Korean. -/
def korean : List Charset := [
    { names := ["euc_kr"]
      aliases := ["euckr", "korean", "ks_c_5601", "ks_c_5601_1987", "ks_x_1001", "ksc5601",
                  "ksx1001", "x_mac_korean"]
      read := readStateless koreanPiece },
    { names := ["cp949"]
      aliases := ["949", "ms949", "uhc"]
      read := readPairs extendedKorean? },
    { names := ["johab"]
      aliases := ["cp1361", "ms1361"]
      read := readPairs composedText? }]

end ReviewGroups.Charset
