/-
Module: ReviewGroups.Number.Shortest
Purpose: The fewest decimal digits that read back as a given double-precision number.
Trusted boundary: none
Main exports: Scaled, Scaled.candidate?, shortest
-/
import ReviewGroups.Number.Binary64

namespace ReviewGroups.Shortest

/-- A positive number `4 * mantissa * 2 ^ (exponent - 2)` seen from the decimal grid with step
`10 ^ place`: one grid step is `step` units, the number is `value` units, and every real between
`low` and `high` units rounds to the number. -/
structure Scaled where
  value : Nat
  low : Nat
  high : Nat
  step : Nat
  closed : Bool
deriving Repr, Inhabited, DecidableEq

/-- Scale a positive finite number to a decimal place.  The gap below a power of two is half the gap
above it; the ends of the interval belong to it when the mantissa is even. -/
def scale (mantissa : Nat) (exponent place : Int) : Scaled :=
  let binary := exponent - 2
  let unit := Nat.pow 2 binary.toNat * Nat.pow 10 (-place).toNat
  let below :=
    if mantissa = Binary64.leastMantissa ∧ Binary64.leastExponent < exponent then 4 * mantissa - 1
    else 4 * mantissa - 2
  { value := 4 * mantissa * unit
    low := below * unit
    high := (4 * mantissa + 2) * unit
    step := Nat.pow 2 (-binary).toNat * Nat.pow 10 place.toNat
    closed := mantissa % 2 == 0 }

/-- The grid point rounds to the number. -/
def Scaled.holds (s : Scaled) (digits : Nat) : Bool :=
  let point := digits * s.step
  if s.closed then s.low ≤ point && point ≤ s.high else s.low < point && point < s.high

/-- The nearer of the two grid neighbours that rounds to the number, if one does. -/
def Scaled.candidate? (s : Scaled) : Option Nat :=
  let floor := s.value / s.step
  let below := s.value - floor * s.step
  let above := (floor + 1) * s.step - s.value
  match s.holds floor, s.holds (floor + 1) with
  | false, false => none
  | true, false => some floor
  | false, true => some (floor + 1)
  | true, true =>
      if below < above then some floor
      else if above < below then some (floor + 1)
      else some (floor + floor % 2)

/-- Ten to the `place` is not above the number. -/
def reaches (mantissa : Nat) (exponent place : Int) : Bool :=
  Nat.pow 10 place.toNat * Nat.pow 2 (-exponent).toNat ≤
    mantissa * Nat.pow 2 exponent.toNat * Nat.pow 10 (-place).toNat

/-- The decimal place of the first digit of a positive number. -/
def leadingPlace (mantissa : Nat) (exponent : Int) : Int :=
  let guess := Int.fdiv (((mantissa.log2 : Int) + exponent) * 30103) 100000
  if reaches mantissa exponent (guess + 1) then guess + 1
  else if reaches mantissa exponent guess then guess
  else guess - 1

/-- Try grids of `count`, `count + 1` and more digits, `left` of them in all. -/
def search (mantissa : Nat) (exponent leading : Int) : Nat → Nat → Nat × Int
  | 0, count => (mantissa, leading - count)
  | left + 1, count =>
      let place := leading - count + 1
      match (scale mantissa exponent place).candidate? with
      | some digits => (digits, place)
      | none => search mantissa exponent leading left (count + 1)

/-- Drop zeros from the end of a digit string, which moves the place up. -/
def dropZeros : Nat → Nat × Int → Nat × Int
  | 0, answer => answer
  | left + 1, (digits, place) =>
      if digits % 10 = 0 ∧ digits ≠ 0 then dropZeros left (digits / 10, place + 1)
      else (digits, place)

/-- The fewest digits, and the decimal place of the last one, that read back as the positive number
`mantissa * 2 ^ exponent`; seventeen digits always do. -/
def shortest (mantissa : Nat) (exponent : Int) : Nat × Int :=
  dropZeros 20 (search mantissa exponent (leadingPlace mantissa exponent) 17 1)

end ReviewGroups.Shortest
