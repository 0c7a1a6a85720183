/-
Module: ReviewGroups.Text.Hex
Purpose: Hexadecimal digits, and the bytes and 16-bit units that they write.
Trusted boundary: none
Main exports: Hex.lowerDigit, Hex.upperDigit, Hex.digits, Hex.value?, Hex.byte?, Hex.unit?
-/

namespace ReviewGroups.Text.Hex

/-- The lower-case hexadecimal digit of a value below sixteen. -/
def lowerDigit (n : Nat) : Char :=
  if n < 10 then Char.ofNat (0x30 + n) else Char.ofNat (0x57 + n)

/-- The upper-case hexadecimal digit of a value below sixteen. -/
def upperDigit (n : Nat) : Char :=
  if n < 10 then Char.ofNat (0x30 + n) else Char.ofNat (0x37 + n)

/-- The last `width` digits of `n`, most significant first. -/
def digits : Nat → Nat → List Char
  | 0, _ => []
  | width + 1, n => digits width (n / 16) ++ [lowerDigit (n % 16)]

/-- The value of a digit in either case. -/
def value? (c : Char) : Option Nat :=
  if c.isDigit then some (c.toNat - 0x30)
  else if 'a' ≤ c ∧ c ≤ 'f' then some (c.toNat - 0x57)
  else if 'A' ≤ c ∧ c ≤ 'F' then some (c.toNat - 0x37)
  else none

/-- The byte that two digits write. -/
def byte? (high low : Char) : Option UInt8 := do
  let high ← value? high
  let low ← value? low
  pure (high * 16 + low).toUInt8

/-- The 16-bit unit that four digits write. -/
def unit? (a b c d : Char) : Option Nat := do
  let a ← value? a
  let b ← value? b
  let c ← value? c
  let d ← value? d
  pure (((a * 16 + b) * 16 + c) * 16 + d)

end ReviewGroups.Text.Hex
