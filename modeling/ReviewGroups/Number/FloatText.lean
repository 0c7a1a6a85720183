/-
Module: ReviewGroups.Number.FloatText
Purpose: Double-precision numbers as text, written and read.
Trusted boundary: none
Main exports: FloatFormat, floatFormat, Binary64.render, Binary64.toText, Binary64.ofDecimal,
  Binary64.read?
-/
import ReviewGroups.Number.Shortest

namespace ReviewGroups

/-- The choices that a decimal format leaves open. -/
structure FloatFormat where
  /-- The first exponent written positionally. -/
  positionalFrom : Int
  /-- The first exponent beyond those written positionally. -/
  positionalBelow : Int
  /-- The least number of digits of a written exponent. -/
  exponentWidth : Nat
  /-- What follows a whole number. -/
  wholeSuffix : String
  notANumber : String
  infinite : String
deriving Repr, Inhabited, DecidableEq

/-- Exponents from -4 to 15 are positional, a whole number ends in `.0`, an exponent is signed and
has two digits or more. -/
def floatFormat : FloatFormat :=
  { positionalFrom := -4
    positionalBelow := 16
    exponentWidth := 2
    wholeSuffix := ".0"
    notANumber := "nan"
    infinite := "inf" }

namespace FloatFormat

/-- Fill a digit string up with zeros on the left. -/
def padLeft (width : Nat) (digits : List Char) : List Char :=
  List.replicate (width - digits.length) '0' ++ digits

/-- The digits with a point after the first `whole` of them, zeros filled in where none are. -/
def positional (format : FloatFormat) (digits : List Char) (whole : Int) : List Char :=
  if whole ≤ 0 then ['0', '.'] ++ List.replicate (-whole).toNat '0' ++ digits
  else if digits.length ≤ whole.toNat then
    digits ++ List.replicate (whole.toNat - digits.length) '0' ++ format.wholeSuffix.toList
  else digits.take whole.toNat ++ '.' :: digits.drop whole.toNat

/-- One digit, the others after a point, and the exponent. -/
def scientific (format : FloatFormat) (digits : List Char) (exponent : Int) : List Char :=
  let fraction := if digits.length ≤ 1 then [] else '.' :: digits.drop 1
  let sign := if exponent < 0 then '-' else '+'
  digits.take 1 ++ fraction ++
    ['e', sign] ++ padLeft format.exponentWidth (Nat.toDigits 10 exponent.natAbs)

/-- A magnitude of `digits * 10 ^ place`. -/
def magnitude (format : FloatFormat) (digits : Nat) (place : Int) : List Char :=
  let text := Nat.toDigits 10 digits
  let exponent := place + text.length - 1
  if format.positionalFrom ≤ exponent ∧ exponent < format.positionalBelow then
    format.positional text (exponent + 1)
  else format.scientific text exponent

end FloatFormat

namespace Binary64

/-- A number in a format, with the fewest digits that read back as it. -/
def render (format : FloatFormat) (x : Binary64) : String :=
  match x.decode with
  | .notANumber => format.notANumber
  | .infinite negative => (if negative then "-" else "") ++ format.infinite
  | .finite negative mantissa exponent =>
      let body :=
        if mantissa = 0 then format.magnitude 0 0
        else
          let (digits, place) := Shortest.shortest mantissa exponent
          format.magnitude digits place
      String.ofList ((if negative then ['-'] else []) ++ body)

/-- The text of a number in messages, addresses and bodies. -/
def toText (x : Binary64) : String :=
  x.render floatFormat

/-- The number nearest to `digits * 10 ^ place`.  Beyond the range that any number rounds into, the
answer is given without computing the power. -/
def ofDecimal (negative : Bool) (digits : Nat) (place : Int) : Binary64 :=
  let leading := place + (Nat.toDigits 10 digits).length
  if digits = 0 ∨ leading < -330 then ofMagnitude negative 0
  else if 310 < leading then infinity negative
  else ofRatio negative (digits * Nat.pow 10 place.toNat) (Nat.pow 10 (-place).toNat)

/-- Decimal digits at the start of a text, and the rest. -/
def spanDigits (cs : List Char) : List Char × List Char :=
  (cs.takeWhile Char.isDigit, cs.dropWhile Char.isDigit)

/-- The number a string of decimal digits writes. -/
def digitsValue (digits : List Char) : Nat :=
  Nat.ofDigitChars 10 digits 0

/-- An exponent part: nothing, or a mark, a sign and at least one digit. -/
def readExponent? (cs : List Char) : Option Int :=
  match cs with
  | [] => some 0
  | mark :: rest =>
      if mark ≠ 'e' ∧ mark ≠ 'E' then none
      else
        let (negative, digits) :=
          match rest with
          | '-' :: digits => (true, digits)
          | '+' :: digits => (false, digits)
          | digits => (false, digits)
        if digits.isEmpty || !digits.all Char.isDigit then none
        else
          let value : Int := digitsValue digits
          some (if negative then -value else value)

/-- An unsigned decimal number: digits on at least one side of an optional point, and an optional
exponent. -/
def readMagnitude? (negative : Bool) (cs : List Char) : Option Binary64 :=
  let (whole, afterWhole) := spanDigits cs
  let (fraction, rest) :=
    match afterWhole with
    | '.' :: afterPoint => spanDigits afterPoint
    | _ => ([], afterWhole)
  if whole.isEmpty && fraction.isEmpty then none
  else
    (readExponent? rest).map fun exponent =>
      ofDecimal negative (digitsValue (whole ++ fraction)) (exponent - fraction.length)

/-- Read a number: a sign, then a decimal number or, in any case, `inf`, `infinity` or `nan`. -/
def read? (cs : List Char) : Option Binary64 :=
  let (negative, body) :=
    match cs with
    | '-' :: rest => (true, rest)
    | '+' :: rest => (false, rest)
    | _ => (false, cs)
  let word := String.ofList (body.map Char.toLower)
  if word = "nan" then some nan
  else if word = "inf" ∨ word = "infinity" then some (infinity negative)
  else readMagnitude? negative body

end Binary64

end ReviewGroups
