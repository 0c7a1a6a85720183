/-
Module: ReviewGroups.Proofs.ShortNumbers
Purpose: Whole numbers that come from a text have few enough digits to be written and read again,
  also after they have been checked. The reader refuses longer ones, so it is an induction on what
  was read; checks make whole numbers of texts and of floating-point numbers too, and those are
  bounded by what they were made of.
Trusted boundary: none
Main exports: Json.HasShortNumbers, Json.hasShortNumbers_of_parse, Check.isShort_of_whole
-/
import Mathlib.Data.List.TakeWhile
import Mathlib.Data.Nat.Digits.Defs
import ReviewGroups.Proofs.GroupShape
import ReviewGroups.Proofs.KeyedOrder
import ReviewGroups.Proofs.Result
import ReviewGroups.Proofs.WrittenText

namespace ReviewGroups

namespace Json

open Text

/-! ### Numbers by their digits -/

private theorem ofDigitChars_lt {digits : List Char} (all : ∀ c ∈ digits, c.isDigit = true)
    (start : Nat) :
    Nat.ofDigitChars 10 digits start < 10 ^ digits.length * (start + 1) := by
  induction digits generalizing start with
  | nil => simp [Nat.ofDigitChars]
  | cons c digits inductionHypothesis =>
      obtain ⟨digit, others⟩ := List.forall_mem_cons.1 all
      obtain ⟨least, greatest⟩ : 48 ≤ c.toNat ∧ c.toNat ≤ 57 := Char.isDigit_iff_toNat.1 digit
      rw [Nat.ofDigitChars_cons, List.length_cons, Nat.pow_succ, Nat.mul_assoc]
      refine Nat.lt_of_lt_of_le (inductionHypothesis others _) (Nat.mul_le_mul_left _ ?_)
      change 10 * start + (c.toNat - 48) + 1 ≤ 10 * (start + 1)
      omega

/-- A number that is denoted by few enough digits has few enough, with either sign. -/
theorem isShort_of_digits {digits : List Char} (all : ∀ c ∈ digits, c.isDigit = true)
    (few : digits.length ≤ digitLimit) (negative : Bool) :
    IsShort (if negative then -(Binary64.digitsValue digits : Int)
      else Binary64.digitsValue digits) := by
  have small : Binary64.digitsValue digits < 10 ^ digitLimit := by
    have below := ofDigitChars_lt all 0
    rw [Nat.zero_add, Nat.mul_one] at below
    exact Nat.lt_of_lt_of_le below (Nat.pow_le_pow_right (by decide) few)
  have magnitude : (if negative then -(Binary64.digitsValue digits : Int)
      else Binary64.digitsValue digits).natAbs = Binary64.digitsValue digits := by
    cases negative <;> simp
  rw [IsShort, magnitude]
  exact Nat.toDigits_length 10 _ digitLimit (by decide) small

/-- A number of moderate size has few enough digits. -/
theorem isShort_of_moderate {n : Int} (least : -Check.wholeBound < n)
    (greatest : n < Check.wholeBound) : IsShort n := by
  have small : n.natAbs < 10 ^ 20 := by
    unfold Check.wholeBound at least greatest
    omega
  have few : (Nat.toDigits 10 n.natAbs).length ≤ 20 :=
    Nat.toDigits_length 10 _ 20 (by decide) small
  exact Nat.le_trans few (by decide)

/-! ### Values that are read -/

/-- Every whole number in a value, at every depth, has few enough digits. -/
inductive HasShortNumbers : Json → Prop where
  | null : HasShortNumbers .null
  | bool (b : Bool) : HasShortNumbers (.bool b)
  | int {n : Int} (short : IsShort n) : HasShortNumbers (.int n)
  | float (x : Binary64) : HasShortNumbers (.float x)
  | text (s : String) : HasShortNumbers (.text s)
  | list {items : List Json} (each : ∀ item ∈ items, HasShortNumbers item) :
      HasShortNumbers (.list items)
  | object {members : Keyed Json} (each : ∀ member ∈ members, HasShortNumbers member.2) :
      HasShortNumbers (.object members)

/-- The digits of a whole part are digits. -/
theorem isDigit_of_scanWhole? {cs whole rest : List Char}
    (found : NumberForm.scanWhole? cs = some (whole, rest)) : ∀ c ∈ whole, c.isDigit = true := by
  unfold NumberForm.scanWhole? at found
  split at found
  · cases found
    rw [List.forall_mem_singleton]
    rfl
  · next c tail _ =>
    split at found
    · next digit =>
      cases found
      rw [List.forall_mem_cons]
      exact ⟨digit, fun d present => List.mem_takeWhile_imp present⟩
    · cases found
  · cases found

private theorem hasShortNumbers_of_readWord? {cs : List Char} {parsed : Parsed Json cs}
    (read : readWord? cs = some parsed) : parsed.value.HasShortNumbers := by
  unfold readWord? at read
  split at read
  case h_7 => cases read
  all_goals
    cases read
    constructor

/-- A number that is read is short if it is whole. -/
theorem hasShortNumbers_of_readNumber {cs : List Char} {parsed : Parsed Json cs}
    (read : readNumber cs = .ok parsed) : parsed.value.HasShortNumbers := by
  unfold readNumber at read
  split at read
  · cases read
  · next form rest found =>
    split at read
    · cases read
    · next value denotes =>
      cases read
      obtain ⟨⟨whole, after⟩, scanned, same⟩ := Option.map_eq_some_iff.1 found
      cases same
      -- Only a number in its plain form is whole, and then it is refused if it is too long.
      unfold NumberForm.value at denotes
      split at denotes
      · split at denotes
        · cases denotes
        · next few =>
          cases denotes
          exact .int (isShort_of_digits (isDigit_of_scanWhole? scanned) (Nat.not_lt.1 few) _)
      · cases denotes
        exact .float _

/-- Values, items and members that are read at the start of a text have short numbers only. -/
structure ReadsShort (cs : List Char) : Prop where
  value : ∀ parsed, readValue cs = .ok parsed → parsed.value.HasShortNumbers
  items : ∀ parsed, readItems cs = .ok parsed → ∀ item ∈ parsed.value, item.HasShortNumbers
  members : ∀ parsed, readMembers cs = .ok parsed →
    ∀ member ∈ parsed.value, member.2.HasShortNumbers

section Readers

variable {cs : List Char}
  (inside : ∀ inner : List Char, inner.length < cs.length → ReadsShort inner)
include inside

/-- A value has short numbers, if what is inside it does. -/
theorem hasShortNumbers_of_readValue {parsed : Parsed Json cs} (read : readValue cs = .ok parsed) :
    parsed.value.HasShortNumbers := by
  have behind (c : Char) (inner : List Char) (whole : cs = c :: inner) :
      ReadsShort (skip inner) := by
    refine inside _ (Nat.lt_of_le_of_lt (skip_length_le inner) ?_)
    rw [whole]
    exact Nat.lt_succ_self _
  unfold readValue at read
  split at read
  · obtain ⟨quoted, -, rfl⟩ := Result.map_eq_ok_iff.1 read
    exact .text _
  · split at read
    · cases read
      exact .list (by simp)
    · obtain ⟨items, itemsRead, rfl⟩ := Result.map_eq_ok_iff.1 read
      exact .list ((behind _ _ rfl).items items itemsRead)
  · split at read
    · cases read
      exact .object (by simp)
    · obtain ⟨pairs, pairsRead, rfl⟩ := Result.map_eq_ok_iff.1 read
      refine .object fun member present => ?_
      exact (behind _ _ rfl).members pairs pairsRead member (Keyed.mem_of_mem_ofPairs present)
  · split at read
    · next word =>
      cases read
      exact hasShortNumbers_of_readWord? word
    · exact hasShortNumbers_of_readNumber read

/-- Items have short numbers, if the first one does and what is inside the text does. -/
theorem hasShortNumbers_of_readItems {parsed : Parsed (List Json) cs}
    (read : readItems cs = .ok parsed) : ∀ item ∈ parsed.value, item.HasShortNumbers := by
  unfold readItems at read
  split at read
  · cases read
  · next first firstRead =>
    have firstShort := hasShortNumbers_of_readValue inside firstRead
    split at read
    · cases read
      simpa using firstShort
    · split at read
      · cases read
      · next comma _ =>
        obtain ⟨others, othersRead, rfl⟩ := Result.map_eq_ok_iff.1 read
        have shorter : (skip comma.rest).length < cs.length :=
          Nat.lt_of_le_of_lt (skip_length_le _) (Nat.lt_trans comma.shorter first.shorter)
        exact List.forall_mem_cons.2 ⟨firstShort, (inside _ shorter).items others othersRead⟩

/-- Members have short numbers, if what is inside the text does. -/
theorem hasShortNumbers_of_readMembers {parsed : Parsed (List (String × Json)) cs}
    (read : readMembers cs = .ok parsed) : ∀ member ∈ parsed.value, member.2.HasShortNumbers := by
  unfold readMembers at read
  split at read
  · cases read
  · next name _ =>
    split at read
    · cases read
    · next colon _ =>
      have atValue : (skip colon.rest).length < cs.length :=
        Nat.lt_of_le_of_lt (skip_length_le _) (Nat.lt_trans colon.shorter name.shorter)
      split at read
      · cases read
      · next value valueRead =>
        have valueShort := (inside _ atValue).value value valueRead
        split at read
        · cases read
          simpa using valueShort
        · split at read
          · cases read
          · next comma _ =>
            obtain ⟨others, othersRead, rfl⟩ := Result.map_eq_ok_iff.1 read
            have shorter : (skip comma.rest).length < cs.length :=
              Nat.lt_of_le_of_lt (skip_length_le _)
                (Nat.lt_trans (Nat.lt_trans comma.shorter value.shorter) atValue)
            exact List.forall_mem_cons.2 ⟨valueShort, (inside _ shorter).members others othersRead⟩

end Readers

/-- Whatever is read has short numbers: what is inside a text is shorter than it. -/
theorem readsShort (cs : List Char) : ReadsShort cs := by
  induction length : cs.length using Nat.strongRecOn generalizing cs with
  | ind n inductionHypothesis =>
    have inside (inner : List Char) (shorter : inner.length < cs.length) : ReadsShort inner :=
      inductionHypothesis _ (length ▸ shorter) inner rfl
    exact ⟨fun _ => hasShortNumbers_of_readValue inside,
      fun _ => hasShortNumbers_of_readItems inside,
      fun _ => hasShortNumbers_of_readMembers inside⟩

/-- A document has short numbers. -/
theorem hasShortNumbers_of_parse {s : String} {data : Json} (read : parse s = .ok data) :
    data.HasShortNumbers := by
  unfold parse at read
  dsimp only at read
  split at read
  · cases read
  · split at read
    · cases read
    · next parsed first =>
      split at read
      · cases read
        exact (readsShort _).value parsed first
      · cases read

end Json

/-! ### Numbers that are checked -/

namespace Check

open Json

/-- A number that is read in its plain form is short. -/
theorem isShort_of_plainWhole {cs : List Char} {n : Int} (read : plainWhole cs = .ok n) :
    IsShort n := by
  unfold plainWhole at read
  dsimp only at read
  generalize (cs.head? == some '-') = negative at read
  generalize (if negative = true then cs.drop 1 else cs) = digits at read
  split at read
  · cases read
  · split at read
    · cases read
    · next few =>
      split at read
      · cases read
      · cases read
        exact isShort_of_digits (fun c present => List.mem_takeWhile_imp present)
          (Nat.not_lt.1 few) negative

/-- A number that a text writes is short. -/
theorem isShort_of_wholeOfText {s : String} {n : Int} (read : wholeOfText s = .valid n) :
    IsShort n := by
  unfold wholeOfText at read
  split at read
  · next plain =>
    cases read
    exact isShort_of_plainWhole plain
  · cases read
  · cases bare : unadorn (Text.trimList Text.isSpace s.toList) with
    | none =>
        rw [bare] at read
        cases read
    | some cs =>
        rw [bare, Option.bind_some] at read
        cases plain : plainWhole cs with
        | ok m =>
            rw [plain] at read
            cases read
            exact isShort_of_plainWhole plain
        | error fault =>
            rw [plain] at read
            cases read

end Check

/-- What is read as a whole number is short, if it comes from a value with short numbers. -/
theorem Json.IsWhole.isShort {data : Json} {n : Int} (read : data.IsWhole n)
    (short : data.HasShortNumbers) : Json.IsShort n := by
  cases read with
  | int =>
      cases short with
      | int short => exact short
  | bool b => cases b <;> exact isShort_of_moderate (by decide) (by decide)
  | float whole least greatest => exact isShort_of_moderate least greatest
  | text written => exact Check.isShort_of_wholeOfText written

end ReviewGroups
