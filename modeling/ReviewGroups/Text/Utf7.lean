/-
Module: ReviewGroups.Text.Utf7
Purpose: Characters as ASCII: most of it as it is, and all else between a plus and a hyphen.
Trusted boundary: none
Main exports: Utf7.units
-/
import ReviewGroups.Text.Utf16

namespace ReviewGroups.Text.Utf7

/-- The value of a digit in base 64. -/
def digit? (b : Nat) : Option Nat :=
  if 0x41 ≤ b ∧ b ≤ 0x5A then some (b - 0x41)
  else if 0x61 ≤ b ∧ b ≤ 0x7A then some (b - 0x61 + 26)
  else if 0x30 ≤ b ∧ b ≤ 0x39 then some (b - 0x30 + 52)
  else if b = 0x2B then some 62
  else if b = 0x2F then some 63
  else none

/-- What is known within a section of digits: bits that wait for more of them, their count, and the
first half of a pair that waits for the second one. -/
structure Section where
  bits : Nat
  count : Nat
  half : Option Nat
deriving Repr, Inhabited, DecidableEq

namespace Section

/-- The start of a section. -/
def start : Section := ⟨0, 0, none⟩

/-- The units of a half that found no second one. -/
def lone (half : Option Nat) : List (Option Char) :=
  (half.map fun _ => none).toList

/-- Take in a 16-bit number. -/
def takeUnit (half : Option Nat) (n : Nat) : List (Option Char) × Option Nat :=
  match half with
  | some high =>
      if Utf16.isLow n then ([some (Utf16.join high n)], none)
      else if Utf16.isHigh n then ([none], some n)
      else ([none, Utf16.single? n], none)
  | none => if Utf16.isHigh n then ([], some n) else ([Utf16.single? n], none)

/-- Take in a digit: as soon as there are sixteen bits they are a number. -/
def takeDigit (state : Section) (digit : Nat) : List (Option Char) × Section :=
  let bits := state.bits * 0x40 + digit
  let count := state.count + 6
  if count < 16 then ([], { state with bits := bits, count := count })
  else
    let rest := count - 16
    let (found, half) := takeUnit state.half (bits / Nat.pow 2 rest)
    (found, ⟨bits % Nat.pow 2 rest, rest, half⟩)

/-- A section may not end within a digit too many, or with bits that are not zero. -/
def isRagged (state : Section) : Bool :=
  6 ≤ state.count || 0 < state.count && state.bits != 0

end Section

/-- The characters of a byte list in order, outside a section or within one; `none` stands for a
byte that may not be there, for half a pair on its own, and for a section that breaks off. -/
def unitsFrom : Option Section → List UInt8 → List (Option Char)
  | none, [] => []
  | some state, [] => if state.half.isSome || state.isRagged then [none] else []
  | none, b :: rest =>
      if b = 0x2B then
        match rest with
        | 0x2D :: others => some '+' :: unitsFrom none others
        | other :: others =>
            if (digit? other.toNat).isSome then unitsFrom (some .start) (other :: others)
            else none :: unitsFrom none others
        | [] => []
      else if b < 0x80 then some (Char.ofNat b.toNat) :: unitsFrom none rest
      else none :: unitsFrom none rest
  | some state, b :: rest =>
      match digit? b.toNat with
      | some digit =>
          let (found, state) := state.takeDigit digit
          found ++ unitsFrom (some state) rest
      | none =>
          if state.isRagged then none :: unitsFrom none rest
          else
            let waiting := if b < 0x80 then Section.lone state.half else []
            if b = 0x2D then waiting ++ unitsFrom none rest
            else if b < 0x80 then waiting ++ some (Char.ofNat b.toNat) :: unitsFrom none rest
            else waiting ++ none :: unitsFrom none rest

/-- The characters of a byte list in order. -/
def units (bytes : List UInt8) : List (Option Char) :=
  unitsFrom none bytes

end ReviewGroups.Text.Utf7
