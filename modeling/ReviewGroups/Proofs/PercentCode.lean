/-
Module: ReviewGroups.Proofs.PercentCode
Purpose: Text that is escaped is read back as it was, and what escaped text can consist of. Which
  characters stay as they are is a parameter, for the several escapings on the way to a request;
  characters beyond ASCII go through UTF-8. The lemmas on what is in escaped text are what keeps a
  second escaping from changing it.
Trusted boundary: none
Main exports: Text.forall_ascii, Percent.decode_encode, Percent.mem_encode,
  Percent.encode_of_stays, Percent.encode_eq_self_iff, Percent.encode_encode,
  Percent.encode_eq_self_of_not_mem
-/
import Mathlib.Data.List.Basic
import ReviewGroups.Proofs.Utf8RoundTrip
import ReviewGroups.Url.Address

namespace ReviewGroups

/-- A property of the characters of ASCII is found out one by one. -/
theorem Text.forall_ascii {holds : Char → Prop} (all : ∀ n < 0x80, holds (Char.ofNat n)) :
    ∀ c : Char, c.toNat < 0x80 → holds c := by
  intro c small
  have held := all c.toNat small
  rwa [Char.ofNat_toNat] at held

namespace Text.Hex

private theorem value?_upperDigit {n : Nat} (small : n < 16) : value? (upperDigit n) = some n := by
  have all : ∀ n < 16, value? (upperDigit n) = some n := by decide
  exact all n small

private theorem byte?_upperDigits (b : UInt8) :
    byte? (upperDigit (b.toNat / 16)) (upperDigit (b.toNat % 16)) = some b := by
  have bound : b.toNat < 256 := b.toNat_lt
  unfold byte?
  rw [value?_upperDigit (by omega), value?_upperDigit (by omega)]
  have whole : (b.toNat / 16 * 16 + b.toNat % 16).toUInt8 = b := by
    rw [Nat.div_add_mod' b.toNat 16]
    exact UInt8.ofNat_toNat
  exact congrArg some whole

end Text.Hex

namespace Url.Percent

open Text

variable {stays : Char → Bool} {c : Char} {cs : List Char}

theorem encode_cons (c : Char) (cs : List Char) :
    encode stays (c :: cs) = (if stays c then [c] else escapeChar c) ++ encode stays cs :=
  List.flatMap_cons

/-! ### Reading what is escaped -/

private theorem decodeBytes_escapeByte_append (b : UInt8) (rest : List Char) :
    decodeBytes (escapeByte b ++ rest) = b :: decodeBytes rest := by
  simp [escapeByte, decodeBytes, Hex.byte?_upperDigits]

private theorem decodeBytes_escapes_append (bytes : List UInt8) (rest : List Char) :
    decodeBytes (bytes.flatMap escapeByte ++ rest) = bytes ++ decodeBytes rest := by
  induction bytes with
  | nil => rfl
  | cons b bytes inductionHypothesis =>
      rw [List.flatMap_cons, List.append_assoc, decodeBytes_escapeByte_append, inductionHypothesis]
      rfl

private theorem decodeBytes_cons (other : c ≠ '%') (rest : List Char) :
    decodeBytes (c :: rest) = Utf8.encodeChar c ++ decodeBytes rest := by
  rw [decodeBytes]
  intro high low after percent
  exact absurd percent other

/-- Escaped text is read as the bytes of the text. -/
theorem decodeBytes_encode (escaped : stays '%' = false) (cs : List Char) :
    decodeBytes (encode stays cs) = Utf8.encode cs := by
  induction cs with
  | nil => rfl
  | cons c cs inductionHypothesis =>
      rw [encode_cons, Utf8.encode_cons, ← inductionHypothesis]
      by_cases plain : stays c
      · have other : c ≠ '%' := by
          rintro rfl
          simp [escaped] at plain
        rw [if_pos plain]
        exact decodeBytes_cons other _
      · rw [if_neg plain]
        exact decodeBytes_escapes_append _ _

/-- Escaped text is read back as it was. -/
theorem decode_encode (escaped : stays '%' = false) (cs : List Char) :
    decode (encode stays cs) = cs := by
  rw [decode, decodeBytes_encode escaped, Utf8.decodeReplacing_encode]

theorem encode_injective (escaped : stays '%' = false) {left right : List Char}
    (same : encode stays left = encode stays right) : left = right := by
  rw [← decode_encode escaped left, same, decode_encode escaped]

/-- Something is read as something. -/
theorem decode_ne_nil (written : cs ≠ []) : decode cs ≠ [] := by
  have bytes : decodeBytes cs ≠ [] := by
    unfold decodeBytes
    split
    · split
      · exact List.cons_ne_nil _ _
      · exact List.append_ne_nil_of_left_ne_nil (Utf8.encodeChar_ne_nil _) _
    · exact List.append_ne_nil_of_left_ne_nil (Utf8.encodeChar_ne_nil _) _
    · exact absurd rfl written
  intro empty
  rw [decode, Utf8.decodeReplacing, List.map_eq_nil_iff] at empty
  exact Utf8.units_ne_nil bytes empty

/-! ### What escaped text consists of -/

/-- The characters that never need an escape are ASCII. -/
theorem toNat_lt_of_isUnreserved {c : Char} (plain : isUnreserved c = true) :
    c.toNat < 0x80 := by
  simp only [isUnreserved, Bool.or_eq_true, beq_iff_eq] at plain
  rcases plain with (((alphanumeric | rfl) | rfl) | rfl) | rfl
  · rcases Bool.or_eq_true_iff.1 alphanumeric with letter | digit
    · rcases Bool.or_eq_true_iff.1 letter with upper | lower
      · have bound := (of_decide_eq_true upper).2
        exact Nat.lt_of_le_of_lt bound (by decide)
      · have bound := of_decide_eq_true (Bool.and_eq_true_iff.1 lower).2
        exact Nat.lt_of_le_of_lt bound (by decide)
    · have bound := of_decide_eq_true (Bool.and_eq_true_iff.1 digit).2
      exact Nat.lt_of_le_of_lt bound (by decide)
  all_goals decide

/-- What stays besides the characters that never need an escape is found out one by one. -/
theorem stays_of_isUnreserved {stays : Char → Bool} (all : ∀ n < 0x80,
      isUnreserved (Char.ofNat n) = true → stays (Char.ofNat n) = true)
    {c : Char} (plain : isUnreserved c = true) : stays c = true := by
  have kept : ∀ c : Char, c.toNat < 0x80 → isUnreserved c = true → stays c = true :=
    forall_ascii all
  exact kept c (toNat_lt_of_isUnreserved plain) plain

private theorem isUnreserved_upperDigit {n : Nat} (small : n < 16) :
    isUnreserved (Hex.upperDigit n) = true := by
  have all : ∀ n < 16, isUnreserved (Hex.upperDigit n) = true := by decide
  exact all n small

/-- An escape consists of percent signs and characters that need no escape. -/
theorem mem_escapeChar {d : Char} (present : d ∈ escapeChar c) :
    d = '%' ∨ isUnreserved d = true := by
  unfold escapeChar at present
  obtain ⟨b, -, present⟩ := List.mem_flatMap.1 present
  have bound : b.toNat < 256 := b.toNat_lt
  simp only [escapeByte, List.mem_cons, List.not_mem_nil, or_false] at present
  rcases present with rfl | rfl | rfl
  · exact .inl rfl
  · exact .inr (isUnreserved_upperDigit (by omega))
  · exact .inr (isUnreserved_upperDigit (by omega))

/-- Escaped text consists of the characters of the text that stay, of percent signs and of
characters that need no escape. -/
theorem mem_encode {d : Char} (present : d ∈ encode stays cs) :
    (d ∈ cs ∧ stays d = true) ∨ d = '%' ∨ isUnreserved d = true := by
  obtain ⟨c, there, present⟩ := List.mem_flatMap.1 present
  by_cases plain : stays c
  · rw [if_pos plain, List.mem_singleton] at present
    subst present
    exact .inl ⟨there, plain⟩
  · rw [if_neg plain] at present
    exact .inr (mem_escapeChar present)

theorem encode_append (left right : List Char) :
    encode stays (left ++ right) = encode stays left ++ encode stays right :=
  List.flatMap_append

/-- A character that could only have been there before was there and stays. -/
theorem mem_of_mem_encode {mark : Char} (reserved : mark ≠ '%' ∧ isUnreserved mark = false)
    (present : mark ∈ encode stays cs) : mark ∈ cs ∧ stays mark = true := by
  rcases mem_encode present with before | percent | plain
  · exact before
  · exact absurd percent reserved.1
  · rw [reserved.2] at plain
    cases plain

private theorem escapeChar_ne_nil (c : Char) : escapeChar c ≠ [] := by
  obtain ⟨b, bytes, written⟩ := List.exists_cons_of_ne_nil (Utf8.encodeChar_ne_nil c)
  unfold escapeChar
  rw [written, List.flatMap_cons]
  exact List.append_ne_nil_of_left_ne_nil (List.cons_ne_nil _ _) _

/-- A character at the end that could only have been there before was there at the end. -/
theorem getLast?_of_getLast?_encode {mark : Char}
    (reserved : mark ≠ '%' ∧ isUnreserved mark = false)
    (ends : (encode stays cs).getLast? = some mark) : cs.getLast? = some mark := by
  rcases List.eq_nil_or_concat cs with none | ⟨front, last, whole⟩
  · rw [none] at ends
    cases ends
  · have some : encode stays [last] ≠ [] := by
      unfold encode
      rw [List.flatMap_singleton]
      split
      · exact List.cons_ne_nil _ _
      · exact escapeChar_ne_nil last
    rw [List.concat_eq_append] at whole
    rw [whole, encode_append, List.getLast?_append_of_ne_nil _ some] at ends
    have only := (mem_of_mem_encode reserved (List.mem_of_getLast? ends)).1
    rw [whole, List.getLast?_concat, List.mem_singleton.1 only]

/-- A text of characters that stay is left as it is. -/
theorem encode_of_stays (plain : ∀ c ∈ cs, stays c = true) : encode stays cs = cs := by
  induction cs with
  | nil => rfl
  | cons c cs inductionHypothesis =>
      rw [encode_cons, if_pos (plain c List.mem_cons_self), inductionHypothesis]
      · rfl
      · intro d present
        exact plain d (List.mem_cons_of_mem c present)

private theorem one_lt_length_escapeChar (c : Char) : 1 < (escapeChar c).length := by
  obtain ⟨b, bytes, written⟩ := List.exists_cons_of_ne_nil (Utf8.encodeChar_ne_nil c)
  simp [escapeChar, written, escapeByte]

/-- No text becomes shorter when it is escaped. -/
theorem length_le_encode (cs : List Char) : cs.length ≤ (encode stays cs).length := by
  induction cs with
  | nil => exact Nat.le_refl _
  | cons c cs inductionHypothesis =>
      have longer := one_lt_length_escapeChar c
      rw [encode_cons, List.length_append, List.length_cons]
      split
      · rw [List.length_singleton]
        omega
      · omega

/-- A text is left as it is exactly if it consists of characters that stay. -/
theorem encode_eq_self_iff : encode stays cs = cs ↔ ∀ c ∈ cs, stays c = true := by
  refine ⟨?_, encode_of_stays⟩
  intro same
  induction cs with
  | nil => simp
  | cons c cs inductionHypothesis =>
      rw [encode_cons] at same
      rw [List.forall_mem_cons]
      split at same
      next plain => exact ⟨plain, inductionHypothesis (List.cons.inj same).2⟩
      next =>
        -- An escape is too long for a text that is left as it is.
        have length := congrArg List.length same
        have longer := one_lt_length_escapeChar c
        have noShorter : cs.length ≤ (encode stays cs).length := length_le_encode cs
        rw [List.length_append, List.length_cons] at length
        omega

/-- Where percent signs stay, a second time leaves a text as the first time did. -/
theorem encode_encode (percent : stays '%' = true)
    (unreserved : ∀ c, isUnreserved c = true → stays c = true) (cs : List Char) :
    encode stays (encode stays cs) = encode stays cs := by
  apply encode_of_stays
  intro c present
  rcases mem_encode present with ⟨-, plain⟩ | rfl | plain
  · exact plain
  · exact percent
  · exact unreserved c plain

/-- A text that shows no percent sign when it is escaped had nothing to escape. -/
theorem encode_eq_self_of_not_mem (clean : '%' ∉ encode stays cs) : encode stays cs = cs := by
  apply encode_of_stays
  intro c present
  cases escaped : stays c with
  | true => rfl
  | false =>
      obtain ⟨b, bytes, written⟩ := List.exists_cons_of_ne_nil (Utf8.encodeChar_ne_nil c)
      refine absurd (List.mem_flatMap.2 ⟨c, present, ?_⟩) clean
      rw [escaped, escapeChar, written]
      exact List.mem_cons_self

end Url.Percent

end ReviewGroups
