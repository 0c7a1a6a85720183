/-
Module: ReviewGroups.Proofs.Utf8RoundTrip
Purpose: Text that is written as UTF-8 is read back as it was, by the standard library too. Both the
  replacing decoder, which takes any bytes, and the strict one of the standard library are inverted;
  the encoder is shown to be that of the standard library, character by character.
Trusted boundary: none
Main exports: Utf8.units_encodeChar_append, Utf8.units_encode, Utf8.decodeReplacing_encode,
  Utf8.toByteArray_encode, Utf8.fromUTF8?_encode
-/
import Mathlib.Tactic.SplitIfs
import ReviewGroups.Text.Utf8

namespace ReviewGroups.Text.Utf8

private theorem toNat_ranges (c : Char) : c.toNat < 0xD800 ∨
    (0xDFFF < c.toNat ∧ c.toNat < 0x110000) := by
  have valid := c.valid
  unfold UInt32.isValidChar Nat.isValidChar at valid
  exact valid

private theorem follow_succ {bits more low high n : Nat} {rest : List UInt8} (small : n < 0x100)
    (least : low ≤ n) (greatest : n ≤ high) :
    follow bits (more + 1) low high (n.toUInt8 :: rest) =
      follow (bits * 0x40 + (n - 0x80)) more 0x80 0xBF rest := by
  have same : n.toUInt8.toNat = n := by
    simp [Nat.mod_eq_of_lt small]
  rw [follow, same, if_pos ⟨least, greatest⟩]

private theorem units_cons {n code : Nat} {promise : Lead} {bytes rest : List UInt8}
    (small : n < 0x100)
    (promised : lead? n = some promise)
    (followed :
      follow promise.bits promise.more promise.low promise.high bytes = (some code, rest)) :
    units (n.toUInt8 :: bytes) = some (Char.ofNat code) :: units rest := by
  have same : n.toUInt8.toNat = n := by
    simp [Nat.mod_eq_of_lt small]
  rw [units, same, promised]
  simp [followed]

private theorem lead?_two {b : Nat} (least : 0xC2 ≤ b) (greatest : b < 0xE0) :
    lead? b = some ⟨b - 0xC0, 1, 0x80, 0xBF⟩ := by
  unfold lead?
  rw [if_neg (by omega), if_neg (by omega), if_pos greatest]

/-- A first byte of three promises its bits and two bytes more; the next of them is within bounds
unless the form is overlong or stands for a surrogate. -/
theorem exists_lead?_three {b : Nat} (least : 0xE0 ≤ b) (greatest : b < 0xF0) :
    ∃ low high, lead? b = some ⟨b - 0xE0, 2, low, high⟩ ∧
      ∀ m, 0x80 ≤ m → m ≤ 0xBF → (b = 0xE0 → 0xA0 ≤ m) → (b = 0xED → m ≤ 0x9F) →
        low ≤ m ∧ m ≤ high := by
  unfold lead?
  rw [if_neg (by omega), if_neg (by omega), if_neg (by omega)]
  by_cases first : b = 0xE0
  · refine ⟨0xA0, 0xBF, by rw [if_pos first, first], ?_⟩
    intro m _ upper overlong _
    exact ⟨overlong first, upper⟩
  · by_cases surrogate : b = 0xED
    · refine ⟨0x80, 0x9F, by rw [if_neg first, if_pos surrogate, surrogate], ?_⟩
      intro m lower _ _ below
      exact ⟨lower, below surrogate⟩
    · refine ⟨0x80, 0xBF, by rw [if_neg first, if_neg surrogate, if_pos greatest], ?_⟩
      intro m lower upper _ _
      exact ⟨lower, upper⟩

/-- A first byte of four promises its bits and three bytes more; the next of them is within bounds
unless the form is overlong or beyond the last code point. -/
theorem exists_lead?_four {b : Nat} (least : 0xF0 ≤ b) (greatest : b ≤ 0xF4) :
    ∃ low high, lead? b = some ⟨b - 0xF0, 3, low, high⟩ ∧
      ∀ m, 0x80 ≤ m → m ≤ 0xBF → (b = 0xF0 → 0x90 ≤ m) → (b = 0xF4 → m ≤ 0x8F) →
        low ≤ m ∧ m ≤ high := by
  unfold lead?
  rw [if_neg (by omega), if_neg (by omega), if_neg (by omega), if_neg (by omega),
    if_neg (by omega), if_neg (by omega)]
  by_cases first : b = 0xF0
  · refine ⟨0x90, 0xBF, by rw [if_pos first, first], ?_⟩
    intro m _ upper overlong _
    exact ⟨overlong first, upper⟩
  · by_cases last : b = 0xF4
    · refine ⟨0x80, 0x8F, by rw [if_neg first, if_neg (by omega), if_pos last, last], ?_⟩
      intro m lower _ _ below
      exact ⟨lower, below last⟩
    · refine ⟨0x80, 0xBF, by rw [if_neg first, if_pos (by omega)], ?_⟩
      intro m lower upper _ _
      exact ⟨lower, upper⟩

variable {n : Nat}

private theorem units_one (small : n < 0x80) (rest : List UInt8) :
    units (n.toUInt8 :: rest) = some (Char.ofNat n) :: units rest := by
  have promised : lead? n = some ⟨n, 0, 0, 0⟩ := by
    unfold lead?
    rw [if_pos small]
  exact units_cons (by omega) promised rfl

private theorem units_two (least : 0x80 ≤ n) (greatest : n < 0x800) (rest : List UInt8) :
    units ((0xC0 + n / 0x40).toUInt8 :: (0x80 + n % 0x40).toUInt8 :: rest) =
      some (Char.ofNat n) :: units rest := by
  have followed :
      follow (0xC0 + n / 0x40 - 0xC0) 1 0x80 0xBF ((0x80 + n % 0x40).toUInt8 :: rest) =
        (some n, rest) := by
    rw [follow_succ (by omega) (by omega) (by omega), follow]
    have code : (0xC0 + n / 0x40 - 0xC0) * 0x40 + (0x80 + n % 0x40 - 0x80) = n := by omega
    rw [code]
  exact units_cons (by omega) (lead?_two (by omega) (by omega)) followed

/-- A character of three bytes is read, unless it is a surrogate. -/
theorem units_three (least : 0x800 ≤ n) (greatest : n < 0x10000)
    (ranges : n < 0xD800 ∨ 0xDFFF < n) (rest : List UInt8) :
    units ((0xE0 + n / 0x1000).toUInt8 :: (0x80 + n / 0x40 % 0x40).toUInt8 ::
        (0x80 + n % 0x40).toUInt8 :: rest) =
      some (Char.ofNat n) :: units rest := by
  obtain ⟨low, high, promised, bounds⟩ := exists_lead?_three
    (Nat.le_add_right 0xE0 (n / 0x1000)) (by omega)
  obtain ⟨lower, upper⟩ := bounds (0x80 + n / 0x40 % 0x40) (by omega) (by omega) (by omega)
    (by omega)
  have followed :
      follow (0xE0 + n / 0x1000 - 0xE0) 2 low high
          ((0x80 + n / 0x40 % 0x40).toUInt8 :: (0x80 + n % 0x40).toUInt8 :: rest) =
        (some n, rest) := by
    rw [follow_succ (by omega) lower upper, follow_succ (by omega) (by omega) (by omega), follow]
    have code :
        ((0xE0 + n / 0x1000 - 0xE0) * 0x40 + (0x80 + n / 0x40 % 0x40 - 0x80)) * 0x40 +
          (0x80 + n % 0x40 - 0x80) = n := by omega
    rw [code]
  exact units_cons (by omega) promised followed

/-- A character of four bytes is read, up to the last code point. -/
theorem units_four (least : 0x10000 ≤ n) (greatest : n < 0x110000) (rest : List UInt8) :
    units ((0xF0 + n / 0x40000).toUInt8 :: (0x80 + n / 0x1000 % 0x40).toUInt8 ::
        (0x80 + n / 0x40 % 0x40).toUInt8 :: (0x80 + n % 0x40).toUInt8 :: rest) =
      some (Char.ofNat n) :: units rest := by
  obtain ⟨low, high, promised, bounds⟩ := exists_lead?_four
    (Nat.le_add_right 0xF0 (n / 0x40000)) (by omega)
  obtain ⟨lower, upper⟩ := bounds (0x80 + n / 0x1000 % 0x40) (by omega) (by omega) (by omega)
    (by omega)
  have followed :
      follow (0xF0 + n / 0x40000 - 0xF0) 3 low high
          ((0x80 + n / 0x1000 % 0x40).toUInt8 :: (0x80 + n / 0x40 % 0x40).toUInt8 ::
            (0x80 + n % 0x40).toUInt8 :: rest) =
        (some n, rest) := by
    rw [follow_succ (by omega) lower upper, follow_succ (by omega) (by omega) (by omega),
      follow_succ (by omega) (by omega) (by omega), follow]
    have code :
        (((0xF0 + n / 0x40000 - 0xF0) * 0x40 + (0x80 + n / 0x1000 % 0x40 - 0x80)) * 0x40 +
          (0x80 + n / 0x40 % 0x40 - 0x80)) * 0x40 + (0x80 + n % 0x40 - 0x80) = n := by omega
    rw [code]
  exact units_cons (by omega) promised followed

/-- A character that is written is read, whatever follows. -/
theorem units_encodeChar_append (c : Char) (rest : List UInt8) :
    units (encodeChar c ++ rest) = some c :: units rest := by
  have ranges := toNat_ranges c
  have same : Char.ofNat c.toNat = c := Char.ofNat_toNat c
  unfold encodeChar
  generalize c.toNat = n at ranges same ⊢
  rw [← same]
  by_cases one : n < 0x80
  · simp only [one, if_true]
    exact units_one one rest
  · by_cases two : n < 0x800
    · simp only [one, two, if_true, if_false]
      exact units_two (by omega) two rest
    · by_cases three : n < 0x10000
      · simp only [one, two, three, if_true, if_false]
        exact units_three (by omega) three (by omega) rest
      · simp only [one, two, three, if_false]
        exact units_four (by omega) (by omega) rest

theorem encodeChar_ne_nil (c : Char) : encodeChar c ≠ [] := by
  unfold encodeChar
  simp only
  split_ifs <;> exact List.cons_ne_nil _ _

/-- Some bytes are read as some characters. -/
theorem units_ne_nil {bytes : List UInt8} (some : bytes ≠ []) : units bytes ≠ [] := by
  cases bytes with
  | nil => exact absurd rfl some
  | cons b bytes =>
      rw [units]
      split <;> exact List.cons_ne_nil _ _

theorem encode_cons (c : Char) (cs : List Char) : encode (c :: cs) = encodeChar c ++ encode cs :=
  List.flatMap_cons

/-- A text that is written is read character by character. -/
theorem units_encode (cs : List Char) : units (encode cs) = cs.map some := by
  induction cs with
  | nil => simp [encode, units]
  | cons c cs inductionHypothesis =>
      rw [encode_cons, units_encodeChar_append, inductionHypothesis, List.map_cons]

/-- A text that is written is read back as it was. -/
theorem decodeReplacing_encode (cs : List Char) : decodeReplacing (encode cs) = cs := by
  rw [decodeReplacing, units_encode, List.map_map]
  exact List.map_id cs

/-! ### The bytes of the standard library -/

/-- A character has the bytes that the standard library writes for it. -/
theorem encodeChar_eq_utf8EncodeChar (c : Char) : encodeChar c = String.utf8EncodeChar c := by
  have ranges := toNat_ranges c
  have code : c.val.toNat = c.toNat := rfl
  simp only [encodeChar, String.utf8EncodeChar, code, Nat.add_comm 0x80]
  generalize c.toNat = n at ranges ⊢
  -- The library cuts the bits of a first byte to their width, which they do not exceed.
  by_cases one : n < 0x80
  · rw [if_pos one, if_pos (by omega)]
  · by_cases two : n < 0x800
    · have lead : 0xC0 + n / 0x40 = n / 0x40 % 0x20 + 0xC0 := by omega
      rw [if_neg one, if_pos two, if_neg (by omega), if_pos (by omega), lead]
    · by_cases three : n < 0x10000
      · have lead : 0xE0 + n / 0x1000 = n / 0x1000 % 0x10 + 0xE0 := by omega
        rw [if_neg one, if_neg two, if_pos three, if_neg (by omega), if_neg (by omega),
          if_pos (by omega), lead]
      · have lead : 0xF0 + n / 0x40000 = n / 0x40000 % 0x8 + 0xF0 := by omega
        rw [if_neg one, if_neg two, if_neg three, if_neg (by omega), if_neg (by omega),
          if_neg (by omega), lead]

/-- A text has the bytes that the standard library writes for it. -/
theorem toByteArray_encode (s : String) : (encode s.toList).toByteArray = s.toUTF8 := by
  have same : encode s.toList = s.toList.flatMap String.utf8EncodeChar :=
    congrArg (s.toList.flatMap ·) (funext encodeChar_eq_utf8EncodeChar)
  rw [same, String.toUTF8_eq_toByteArray, ← String.utf8Encode_toList]
  rfl

/-- The standard library reads a text that is written as it was. -/
theorem fromUTF8?_encode (s : String) :
    String.fromUTF8? (encode s.toList).toByteArray = some s := by
  rw [toByteArray_encode, String.toUTF8_eq_toByteArray]
  exact dif_pos s.isValidUTF8

end ReviewGroups.Text.Utf8
