/-
Module: ReviewGroups.Number.Binary64
Purpose: Double-precision numbers as bit patterns, with exact rounding of ratios to the nearest one.
Trusted boundary: none
Main exports: Binary64, Binary64.decode, Binary64.ofRatio, Binary64.ofInt, Binary64.toInt?
-/

namespace ReviewGroups

/-- A double-precision number, as its 64 bits: sign, eleven bits of exponent, 52 of fraction. -/
structure Binary64 where
  bits : UInt64
deriving Repr, Inhabited, DecidableEq

namespace Binary64

/-- What a bit pattern denotes; a finite number is `mantissa` times two to the `exponent`. -/
inductive Parts where
  | finite (negative : Bool) (mantissa : Nat) (exponent : Int)
  | infinite (negative : Bool)
  | notANumber
deriving Repr, Inhabited, DecidableEq

/-- The least mantissa of a number that is not among the smallest: two to the power of 52. -/
def leastMantissa : Nat := 0x10000000000000

/-- The bit of a pattern that is set for a negative number: two to the power of 63. -/
def signBit : Nat := 0x8000000000000000

/-- The magnitude of infinity, which is the least pattern that is not finite. -/
def infinityBits : Nat := 0x7FF * leastMantissa

/-- The exponent of the smallest steps. -/
def leastExponent : Int := -1074

/-- Read a bit pattern. -/
def decode (x : Binary64) : Parts :=
  let n : Nat := x.bits.toNat
  let negative := signBit ≤ n
  let field : Nat := n / leastMantissa % 2048
  let fraction : Nat := n % leastMantissa
  if field = 0x7FF then
    if fraction = 0 then .infinite negative else .notANumber
  else if field = 0 then .finite negative fraction leastExponent
  else .finite negative (leastMantissa + fraction) (leastExponent + ((field : Int) - 1))

/-- The number with a sign and the magnitude pattern `magnitude`. -/
def ofMagnitude (negative : Bool) (magnitude : Nat) : Binary64 :=
  ⟨((if negative then signBit else 0) + magnitude).toUInt64⟩

/-- Not a number. -/
def nan : Binary64 := ofMagnitude false (infinityBits + leastMantissa / 2)

/-- The infinity of a sign. -/
def infinity (negative : Bool) : Binary64 := ofMagnitude negative infinityBits

/-- The quotient to the nearest whole number, a half to the even one. -/
def roundQuotient (numerator denominator : Nat) : Nat :=
  let quotient := numerator / denominator
  let twice := 2 * (numerator % denominator)
  if twice < denominator then quotient
  else if denominator < twice then quotient + 1
  else quotient + quotient % 2

/-- The exponent of the highest power of two that is not above the ratio of two positive numbers. -/
def ratioLog2 (numerator denominator : Nat) : Int :=
  let guess : Int := (numerator.log2 : Int) - denominator.log2
  let below :=
    if 0 ≤ guess then numerator < denominator * Nat.pow 2 guess.toNat
    else numerator * Nat.pow 2 (-guess).toNat < denominator
  if below then guess - 1 else guess

/-- The magnitude pattern nearest to a ratio.  A mantissa that rounds up to the next power of two
carries into the exponent field, and beyond the largest finite number the answer is infinity. -/
def magnitudeOfRatio (numerator denominator : Nat) : Nat :=
  if numerator = 0 then 0
  else
    let exponent := max (ratioLog2 numerator denominator - 52) leastExponent
    let mantissa :=
      if 0 ≤ exponent then roundQuotient numerator (denominator * Nat.pow 2 exponent.toNat)
      else roundQuotient (numerator * Nat.pow 2 (-exponent).toNat) denominator
    min ((exponent - leastExponent).toNat * leastMantissa + mantissa) infinityBits

/-- The number nearest to a signed ratio. -/
def ofRatio (negative : Bool) (numerator denominator : Nat) : Binary64 :=
  ofMagnitude negative (magnitudeOfRatio numerator denominator)

/-- The number nearest to a whole number. -/
def ofInt (n : Int) : Binary64 :=
  ofRatio (n < 0) n.natAbs 1

/-- Neither infinite nor undefined. -/
def isFinite (x : Binary64) : Bool :=
  match x.decode with
  | .finite .. => true
  | _ => false

/-- The whole number a finite number is, if it has no fraction. -/
def toInt? (x : Binary64) : Option Int :=
  match x.decode with
  | .finite negative mantissa exponent =>
      let magnitude? : Option Nat :=
        if 0 ≤ exponent then some (mantissa * Nat.pow 2 exponent.toNat)
        else
          let unit := Nat.pow 2 (-exponent).toNat
          if mantissa % unit = 0 then some (mantissa / unit) else none
      magnitude?.map fun magnitude => if negative then -(magnitude : Int) else magnitude
  | _ => none

end Binary64

end ReviewGroups
