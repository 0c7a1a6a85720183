/-
Module: ReviewGroups.Text.Utf32
Purpose: Characters as four bytes in either order.
Trusted boundary: none
Main exports: Utf32.units, Utf32.marked?
-/
import ReviewGroups.Text.Utf16

namespace ReviewGroups.Text.Utf32

/-- The number that four bytes write. -/
def number (order : ByteOrder) (a b c d : UInt8) : Nat :=
  match order with
  | .little => ((d.toNat * 0x100 + c.toNat) * 0x100 + b.toNat) * 0x100 + a.toNat
  | .big => ((a.toNat * 0x100 + b.toNat) * 0x100 + c.toNat) * 0x100 + d.toNat

/-- The character with a number.  Halves of pairs and numbers beyond the last code point have
none. -/
def char? (n : Nat) : Option Char :=
  if h : n.isValidChar then some (Char.ofNatAux n h) else none

/-- The characters of a byte list in order; `none` stands for four bytes that write no character,
and for what is cut off at the end. -/
def units (order : ByteOrder) : List UInt8 → List (Option Char)
  | a :: b :: c :: d :: rest => char? (number order a b c d) :: units order rest
  | [] => []
  | _ => [none]

/-- The order that a mark in front of the bytes names, and the bytes after it. -/
def marked? : List UInt8 → Option (ByteOrder × List UInt8)
  | 0xFF :: 0xFE :: 0 :: 0 :: rest => some (.little, rest)
  | 0 :: 0 :: 0xFE :: 0xFF :: rest => some (.big, rest)
  | _ => none

end ReviewGroups.Text.Utf32
