/-
Module: ReviewGroups.Text.Digit
Purpose: Decimal digits of every script, digits without a place value, and whole numbers as text.
Trusted boundary: the two tables (Unicode 14.0)
Main exports: digitValue?, isDigit, digitLimit, isShort, WholeFault, readWhole
-/
import ReviewGroups.Text.Blank

namespace ReviewGroups.Text

/-- The zeros of the decimal digit blocks; each is followed by the other nine digits. -/
def digitZeros : Array Nat := #[
    0x30, 0x660, 0x6F0, 0x7C0, 0x966, 0x9E6, 0xA66, 0xAE6, 0xB66, 0xBE6, 0xC66, 0xCE6, 0xD66,
    0xDE6, 0xE50, 0xED0, 0xF20, 0x1040, 0x1090, 0x17E0, 0x1810, 0x1946, 0x19D0, 0x1A80, 0x1A90,
    0x1B50, 0x1BB0, 0x1C40, 0x1C50, 0xA620, 0xA8D0, 0xA900, 0xA9D0, 0xA9F0, 0xAA50, 0xABF0,
    0xFF10, 0x104A0, 0x10D30, 0x11066, 0x110F0, 0x11136, 0x111D0, 0x112F0, 0x11450, 0x114D0,
    0x11650, 0x116C0, 0x11730, 0x118E0, 0x11950, 0x11C50, 0x11D50, 0x11DA0, 0x16A60, 0x16AC0,
    0x16B50, 0x1D7CE, 0x1D7D8, 0x1D7E2, 0x1D7EC, 0x1D7F6, 0x1E140, 0x1E2F0, 0x1E950, 0x1FBF0]

/-- Runs of characters that are digits without a place value: superscripts, circled digits and the
like. -/
def placelessDigits : Array (Nat × Nat) := #[
    (0xB2, 0xB3), (0xB9, 0xB9), (0x1369, 0x1371), (0x19DA, 0x19DA), (0x2070, 0x2070),
    (0x2074, 0x2079), (0x2080, 0x2089), (0x2460, 0x2468), (0x2474, 0x247C), (0x2488, 0x2490),
    (0x24EA, 0x24EA), (0x24F5, 0x24FD), (0x24FF, 0x24FF), (0x2776, 0x277E), (0x2780, 0x2788),
    (0x278A, 0x2792), (0x10A40, 0x10A43), (0x10E60, 0x10E68), (0x11052, 0x1105A),
    (0x1F100, 0x1F10A)]

/-- The value of a decimal digit of any script. -/
def digitValue? (c : Char) : Option Nat :=
  let n := c.toNat
  (digitZeros.find? fun start => start ≤ n && n ≤ start + 9).map fun start => n - start

/-- A decimal digit or a digit without a place value. -/
def isDigit (c : Char) : Bool :=
  (digitValue? c).isSome ||
    placelessDigits.any fun run => run.1 ≤ c.toNat && c.toNat ≤ run.2

/-- Digits from the most significant on, read in base ten. -/
def natOfDigits (digits : List Nat) : Nat :=
  digits.foldl (fun n digit => 10 * n + digit) 0

/-- The most digits of a whole number that is read from text or written as text. -/
def digitLimit : Nat := 4300

/-- A whole number has few enough digits to be written. -/
def isShort (n : Int) : Bool :=
  (Nat.toDigits 10 n.natAbs).length ≤ digitLimit

/-- No underscore at either end, and no two in a row. -/
def underscoresSingle : List Char → Bool
  | [] => true
  | '_' :: _ => false
  | [_] => true
  | _ :: '_' :: rest => !rest.isEmpty && underscoresSingle rest
  | _ :: c :: rest => underscoresSingle (c :: rest)

/-- Why a text is no whole number. -/
inductive WholeFault where
  | notWhole
  | tooLong (digits : Nat)
deriving Repr, Inhabited, DecidableEq

/-- Split a sign from the rest; a minus answers `true`. -/
def splitSign : List Char → Bool × List Char
  | '+' :: rest => (false, rest)
  | '-' :: rest => (true, rest)
  | cs => (false, cs)

/-- Read a whole number: blanks at the ends, a sign, decimal digits of any script with single
underscores between them.  A run of digits beyond the limit is refused before anything that follows
it is looked at. -/
def readWhole (s : String) : Except WholeFault Int :=
  let (negative, body) := splitSign (trimList isBlank s.toList)
  let inNumber := fun c => c == '_' || (digitValue? c).isSome
  let number := body.takeWhile inNumber
  let digits := number.filterMap digitValue?
  if digits.isEmpty || !underscoresSingle number then .error .notWhole
  else if digitLimit < digits.length then .error (.tooLong digits.length)
  else if !(body.dropWhile inNumber).isEmpty then .error .notWhole
  else
    let magnitude : Int := natOfDigits digits
    .ok (if negative then -magnitude else magnitude)

end ReviewGroups.Text
