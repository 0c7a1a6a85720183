/-
Module: ReviewGroups.Charset.Piece
Purpose: Reading bytes piece by piece, each of them a character or a change of state.
Trusted boundary: none
Main exports: Piece, Ending, Outcome, readPieces, readStateless, numbers
-/
import ReviewGroups.Charset.Basic

namespace ReviewGroups.Charset

/-- What stands in front of bytes that are read in some state: what is found, how many bytes write
it, and the state after it; some bytes that are malformed; a beginning that the end cuts off; or
bytes that ask for what is not there. -/
inductive Piece (State α : Type) where
  | found (what : List α) (taken : Nat) (next : State)
  | malformed (taken : Nat)
  | cutOff
  | stuck
deriving Repr, Inhabited

/-- How reading ends: with the last byte, with so many bytes that are cut off, or ahead of time. -/
inductive Ending where
  | whole
  | cutOff (left : Nat)
  | stuck
deriving Repr, Inhabited, DecidableEq

/-- What bytes are read as, in order, and how reading ends. -/
structure Outcome (α : Type) where
  units : List (Option α)
  ending : Ending
deriving Repr, Inhabited, DecidableEq

/-- Put units in front of an outcome. -/
def Outcome.prepend {α : Type} (units : List (Option α)) (outcome : Outcome α) : Outcome α :=
  { outcome with units := units ++ outcome.units }

/-- Read bytes to their end.  Every piece takes at least one byte, and malformed bytes leave the
state as it is. -/
def readPieces {State α : Type} (piece : State → List Nat → Piece State α) (state : State) :
    List Nat → Outcome α
  | [] => ⟨[], .whole⟩
  | b :: rest =>
      match piece state (b :: rest) with
      | .found what taken next =>
          (readPieces piece next (rest.drop (taken - 1))).prepend (what.map some)
      | .malformed taken => (readPieces piece state (rest.drop (taken - 1))).prepend [none]
      | .cutOff => ⟨[none], .cutOff (rest.length + 1)⟩
      | .stuck => ⟨[none], .stuck⟩
termination_by bytes => bytes.length
decreasing_by all_goals simp only [List.length_drop, List.length_cons]; omega

/-- Bytes as numbers. -/
def numbers (bytes : List UInt8) : List Nat :=
  bytes.map UInt8.toNat

/-- Read bytes with pieces that have no state. -/
def readStateless (piece : Unit → List Nat → Piece Unit Char) (bytes : List UInt8) : Units :=
  (readPieces piece () (numbers bytes)).units

end ReviewGroups.Charset
