/-
Module: ReviewGroups.Text.Utf8
Purpose: UTF-8 as lists of bytes: writing, strict reading, and reading with replacement.
Trusted boundary: none
Main exports: encodeChar, encode, units, decode?, decodeReplacing
-/

namespace ReviewGroups.Text.Utf8

/-- The bytes of one character. -/
def encodeChar (c : Char) : List UInt8 :=
  let n := c.toNat
  if n < 0x80 then [n.toUInt8]
  else if n < 0x800 then [(0xC0 + n / 0x40).toUInt8, (0x80 + n % 0x40).toUInt8]
  else if n < 0x10000 then
    [(0xE0 + n / 0x1000).toUInt8, (0x80 + n / 0x40 % 0x40).toUInt8, (0x80 + n % 0x40).toUInt8]
  else
    [(0xF0 + n / 0x40000).toUInt8, (0x80 + n / 0x1000 % 0x40).toUInt8,
      (0x80 + n / 0x40 % 0x40).toUInt8, (0x80 + n % 0x40).toUInt8]

/-- The bytes of a text. -/
def encode (cs : List Char) : List UInt8 :=
  cs.flatMap encodeChar

/-- What a first byte promises: the bits it carries, how many bytes follow, and the bounds of the
next one.  The bounds exclude overlong forms, surrogates and values beyond the last code point. -/
structure Lead where
  bits : Nat
  more : Nat
  low : Nat
  high : Nat
deriving Repr, Inhabited, DecidableEq

/-- The promise of a first byte, if it can be one. -/
def lead? (b : Nat) : Option Lead :=
  if b < 0x80 then some ⟨b, 0, 0, 0⟩
  else if b < 0xC2 then none
  else if b < 0xE0 then some ⟨b - 0xC0, 1, 0x80, 0xBF⟩
  else if b = 0xE0 then some ⟨0, 2, 0xA0, 0xBF⟩
  else if b = 0xED then some ⟨0xD, 2, 0x80, 0x9F⟩
  else if b < 0xF0 then some ⟨b - 0xE0, 2, 0x80, 0xBF⟩
  else if b = 0xF0 then some ⟨0, 3, 0x90, 0xBF⟩
  else if b < 0xF4 then some ⟨b - 0xF0, 3, 0x80, 0xBF⟩
  else if b = 0xF4 then some ⟨4, 3, 0x80, 0x8F⟩
  else none

/-- Collect the bytes that follow a first byte.  A byte out of bounds is left in place, so that it
can start the next character. -/
def follow (bits : Nat) : Nat → Nat → Nat → List UInt8 → Option Nat × List UInt8
  | 0, _, _, rest => (some bits, rest)
  | _ + 1, _, _, [] => (none, [])
  | more + 1, low, high, b :: rest =>
      if low ≤ b.toNat ∧ b.toNat ≤ high then
        follow (bits * 0x40 + (b.toNat - 0x80)) more 0x80 0xBF rest
      else (none, b :: rest)

/-- Following bytes are taken, never added. -/
theorem follow_length_le (bits more low high : Nat) (bytes : List UInt8) :
    (follow bits more low high bytes).2.length ≤ bytes.length := by
  induction more generalizing bits low high bytes with
  | zero => simp [follow]
  | succ more inductionHypothesis =>
      cases bytes with
      | nil => simp [follow]
      | cons b rest =>
          simp only [follow]
          split
          · exact Nat.le_succ_of_le (inductionHypothesis _ _ _ rest)
          · exact Nat.le_refl _

/-- The characters of a byte list in order; `none` stands for a maximal run of bytes that begins a
character and does not finish it, or for a byte that begins none. -/
def units : List UInt8 → List (Option Char)
  | [] => []
  | b :: rest =>
      match lead? b.toNat with
      | none => none :: units rest
      | some promise =>
          let followed := follow promise.bits promise.more promise.low promise.high rest
          followed.1.map Char.ofNat :: units followed.2
termination_by bytes => bytes.length
decreasing_by
  · simp
  · have := follow_length_le promise.bits promise.more promise.low promise.high rest
    simp only [List.length_cons]
    omega

/-- Read bytes that must all be well formed. -/
def decode? (bytes : List UInt8) : Option (List Char) :=
  (units bytes).mapM id

/-- Read bytes, with U+FFFD for what is not well formed. -/
def decodeReplacing (bytes : List UInt8) : List Char :=
  (units bytes).map (·.getD (Char.ofNat 0xFFFD))

end ReviewGroups.Text.Utf8
