/-
Module: ReviewGroups.Text.Utf16
Purpose: Characters as 16-bit units, and reading the units from bytes in either order.
Trusted boundary: none
Main exports: ByteOrder, Utf16.isHigh, Utf16.isLow, Utf16.join, Utf16.single, Utf16.units,
  Utf16.marked?
-/

namespace ReviewGroups.Text

/-- Which byte of a unit comes first: the one of lesser or of greater weight. -/
inductive ByteOrder where
  | little
  | big
deriving Repr, Inhabited, DecidableEq

namespace Utf16

/-- The first half of a pair that writes one character. -/
def isHigh (n : Nat) : Bool := 0xD800 ≤ n && n < 0xDC00

/-- The second half of such a pair. -/
def isLow (n : Nat) : Bool := 0xDC00 ≤ n && n < 0xE000

/-- The character of a pair. -/
def join (high low : Nat) : Char :=
  Char.ofNat (0x10000 + (high - 0xD800) * 0x400 + (low - 0xDC00))

/-- The character of a unit that is on its own; half a pair is U+FFFD.  Texts here consist of
characters, and half a pair is none: texts that differ in such halves only are the same here. -/
def single (n : Nat) : Char :=
  if isHigh n || isLow n then Char.ofNat 0xFFFD else Char.ofNat n

/-- The unit that two bytes write. -/
def unit (order : ByteOrder) (first second : UInt8) : Nat :=
  match order with
  | .little => second.toNat * 0x100 + first.toNat
  | .big => first.toNat * 0x100 + second.toNat

/-- The character of a unit, unless it is half a pair. -/
def single? (n : Nat) : Option Char :=
  if isHigh n || isLow n then none else some (Char.ofNat n)

/-- The characters of a byte list in order; `none` stands for half a pair on its own, and for what
is cut off at the end. -/
def units (order : ByteOrder) : List UInt8 → List (Option Char)
  | a :: b :: c :: d :: rest =>
      let first := unit order a b
      let second := unit order c d
      if isHigh first && isLow second then some (join first second) :: units order rest
      else single? first :: units order (c :: d :: rest)
  | [a, b, _] =>
      if isHigh (unit order a b) then [none] else [single? (unit order a b), none]
  | [a, b] => [single? (unit order a b)]
  | [_] => [none]
  | [] => []

/-- The order that a mark in front of the bytes names, and the bytes after it. -/
def marked? : List UInt8 → Option (ByteOrder × List UInt8)
  | 0xFF :: 0xFE :: rest => some (.little, rest)
  | 0xFE :: 0xFF :: rest => some (.big, rest)
  | _ => none

end Utf16

end ReviewGroups.Text
