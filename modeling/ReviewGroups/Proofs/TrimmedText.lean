/-
Module: ReviewGroups.Proofs.TrimmedText
Purpose: What trimming leaves of a text, and which texts of digits are read as whole numbers. Digits
  may be of any script, blanks may stand around them and single underscores between them; `Spells`
  says what such a text is read as, without the reader.
Trusted boundary: none
Main exports: Text.isEmpty_trim, Text.isBlankText_trim, Text.Spells,
  Text.readWhole_eq_ok_iff_spells
-/
import Mathlib.Data.List.TakeWhile
import ReviewGroups.Text.Digit

namespace ReviewGroups.Text

variable {p : Char → Bool} {c : Char} {cs : List Char} {s : String}

/-! ### Trimming -/

private theorem mem_dropWhile_of_not (present : c ∈ cs)
    (kept : p c = false) : c ∈ cs.dropWhile p := by
  have whole : cs.takeWhile p ++ cs.dropWhile p = cs := List.takeWhile_append_dropWhile
  rw [← whole] at present
  rcases List.mem_append.1 present with dropped | stays
  · have drops := List.mem_takeWhile_imp dropped
    rw [kept] at drops
    cases drops
  · exact stays

private theorem mem_trimList_of_not (present : c ∈ cs)
    (kept : p c = false) : c ∈ trimList p cs := by
  unfold trimList dropTrailing
  rw [List.mem_reverse]
  apply mem_dropWhile_of_not _ kept
  rw [List.mem_reverse]
  exact mem_dropWhile_of_not present kept

private theorem dropWhile_eq_self (kept : ∀ c ∈ cs, p c = false) : cs.dropWhile p = cs := by
  cases cs with
  | nil => rfl
  | cons c cs => exact List.dropWhile_cons_of_neg (by simp [kept c List.mem_cons_self])

theorem trimList_eq_self (kept : ∀ c ∈ cs, p c = false) : trimList p cs = cs := by
  unfold trimList dropTrailing
  rw [dropWhile_eq_self kept,
    dropWhile_eq_self fun c present => kept c (List.mem_reverse.1 present), List.reverse_reverse]

/-- Nothing is left of a blank text, and of any other a character that is not blank. -/
theorem trim_cases (s : String) :
    (isBlankText s = true ∧ trim s = "") ∨
      (isBlankText s = false ∧ ∃ c ∈ (trim s).toList, isBlank c = false) := by
  cases blank : isBlankText s with
  | true =>
      refine .inl ⟨rfl, ?_⟩
      have none : s.toList.dropWhile isBlank = [] :=
        List.dropWhile_eq_nil_iff.2 (List.all_eq_true.1 blank)
      unfold trim trimList
      rw [none]
      rfl
  | false =>
      refine .inr ⟨rfl, ?_⟩
      obtain ⟨c, present, notBlank⟩ : ∃ c ∈ s.toList, isBlank c = false := by
        simpa [isBlankText] using blank
      refine ⟨c, ?_, notBlank⟩
      unfold trim
      rw [String.toList_ofList]
      exact mem_trimList_of_not present notBlank

/-- Nothing is left of a text exactly if it is blank. -/
theorem isEmpty_trim (s : String) : (trim s).isEmpty = isBlankText s := by
  rcases trim_cases s with ⟨blank, empty⟩ | ⟨some, c, present, -⟩
  · rw [blank, empty]
    rfl
  · rw [some, String.isEmpty_eq_false_iff]
    rintro empty
    rw [empty] at present
    cases present

/-- What is left of a text is blank only if the text is. -/
theorem isBlankText_trim (s : String) : isBlankText (trim s) = isBlankText s := by
  rcases trim_cases s with ⟨blank, empty⟩ | ⟨some, c, present, notBlank⟩
  · rw [blank, empty]
    rfl
  · rw [some, isBlankText, List.all_eq_false]
    exact ⟨c, present, by simp [notBlank]⟩

/-! ### Digits -/

/-- The characters that are blank, by number. -/
def blankCodes : List Nat :=
  List.range' 0x09 5 ++ List.range' 0x1C 5 ++ [0x85, 0xA0, 0x1680] ++ List.range' 0x2000 11 ++
    [0x2028, 0x2029, 0x202F, 0x205F, 0x3000]

private theorem mem_blankCodes (blank : isBlank c = true) : c.toNat ∈ blankCodes := by
  simp only [isBlank, isSpace, Bool.or_eq_true, Bool.and_eq_true, decide_eq_true_eq,
    beq_iff_eq] at blank
  simp only [blankCodes, List.mem_append, List.mem_range'_1, List.mem_cons, List.not_mem_nil]
  omega

/-- A digit of any kind is not blank. -/
theorem not_isBlank_of_isDigit (digit : isDigit c = true) : isBlank c = false := by
  -- There are more digits than blank characters, so the latter are gone through.
  have none : ∀ n ∈ blankCodes, isDigit (Char.ofNat n) = false := by
    decide +kernel
  by_contra blank
  have noDigit := none c.toNat (mem_blankCodes (by simpa using blank))
  rw [Char.ofNat_toNat, digit] at noDigit
  cases noDigit

/-- A text spells a number: it consists of decimal digits, one at least and not too many, which are
read in base ten. -/
def Spells (s : String) (n : Nat) : Prop :=
  s ≠ "" ∧ ∃ digits : List Nat, s.toList.map digitValue? = digits.map some ∧
    digits.length ≤ digitLimit ∧ natOfDigits digits = n

private theorem underscoresSingle_of_not_mem (none : '_' ∉ cs) : underscoresSingle cs = true := by
  fun_induction underscoresSingle cs with
  | case1 => rfl
  | case2 => simp at none
  | case3 => rfl
  | case4 => simp at none
  | case5 => simp_all

/-- A text of digits is read without sign and without blanks at its ends. -/
theorem splitSign_trimList (digits : cs.all isDigit = true) :
    splitSign (trimList isBlank cs) = (false, cs) := by
  rw [List.all_eq_true] at digits
  rw [trimList_eq_self fun c present => not_isBlank_of_isDigit (digits c present)]
  unfold splitSign
  split
  next => exact absurd (digits '+' List.mem_cons_self) (by decide +kernel)
  next => exact absurd (digits '-' List.mem_cons_self) (by decide +kernel)
  next => rfl

private theorem exists_digits_of_all (decimal : ∀ c ∈ cs, (digitValue? c).isSome = true) :
    ∃ digits : List Nat, cs.map digitValue? = digits.map some := by
  induction cs with
  | nil => exact ⟨[], rfl⟩
  | cons c cs inductionHypothesis =>
      rw [List.forall_mem_cons] at decimal
      obtain ⟨digits, values⟩ := inductionHypothesis decimal.2
      obtain ⟨digit, value⟩ := Option.isSome_iff_exists.1 decimal.1
      exact ⟨digit :: digits, by simp [value, values]⟩

private theorem isSome_of_values {digits : List Nat}
    (values : cs.map digitValue? = digits.map some) :
    ∀ c ∈ cs, (digitValue? c).isSome = true := by
  intro c present
  have mapped : digitValue? c ∈ digits.map some := by
    rw [← values]
    exact List.mem_map_of_mem present
  obtain ⟨n, -, value⟩ := List.mem_map.1 mapped
  rw [← value]
  rfl

/-- A text that spells a number consists of digits. -/
theorem Spells.all_isDigit {n : Nat} (spells : Spells s n) : s.toList.all isDigit = true := by
  obtain ⟨-, digits, values, -, -⟩ := spells
  rw [List.all_eq_true]
  intro c present
  simp [isDigit, isSome_of_values values c present]

private theorem underscore_not_mem (digits : cs.all isDigit = true) : '_' ∉ cs := fun present =>
  absurd (List.all_eq_true.1 digits '_' present) (by decide +kernel)

/-- A text of decimal digits is read as their number, unless they are too many. -/
theorem readWhole_of_values {digits : List Nat} (notEmpty : s ≠ "")
    (values : s.toList.map digitValue? = digits.map some) :
    readWhole s =
      if digitLimit < digits.length then .error (.tooLong digits.length)
      else .ok (natOfDigits digits) := by
  have decimal := isSome_of_values values
  have plain : s.toList.all isDigit = true := by
    rw [List.all_eq_true]
    intro c present
    simp [isDigit, decimal c present]
  have same : s.toList.filterMap digitValue? = digits := by
    have mapped := congrArg (List.filterMap id) values
    simpa [List.filterMap_map] using mapped
  have numbers : ∀ c ∈ s.toList, (c == '_' || (digitValue? c).isSome) = true := by
    intro c present
    simp [decimal c present]
  have some : digits ≠ [] := by
    rintro rfl
    simp [notEmpty] at values
  unfold readWhole
  rw [splitSign_trimList plain]
  simp only [List.takeWhile_eq_self_iff.2 numbers, List.dropWhile_eq_nil_iff.2 numbers, same,
    underscoresSingle_of_not_mem (underscore_not_mem plain)]
  simp [some]

/-- In a text of digits that is read as a number, every digit has a value. -/
theorem isSome_of_readWhole {m : Int} (digits : s.toList.all isDigit = true)
    (read : readWhole s = .ok m) : ∀ c ∈ s.toList, (digitValue? c).isSome = true := by
  unfold readWhole at read
  rw [splitSign_trimList digits] at read
  dsimp only at read
  split at read
  next => cases read
  next =>
    split at read
    next => cases read
    next =>
      split at read
      next => cases read
      next nothingElse =>
        have numbers : ∀ c ∈ s.toList, ¬ c = '_' → ¬ digitValue? c = none := by
          simpa using nothingElse
        intro c present
        rw [Option.isSome_iff_ne_none]
        apply numbers c present
        rintro rfl
        exact underscore_not_mem digits present

/-- A text of digits is read as a number exactly if it spells it. -/
theorem readWhole_eq_ok_iff_spells {m : Int} (notEmpty : s ≠ "")
    (digits : s.toList.all isDigit = true) :
    readWhole s = .ok m ↔ ∃ n, Spells s n ∧ m = n := by
  constructor
  · intro read
    obtain ⟨values, decimal⟩ := exists_digits_of_all (isSome_of_readWhole digits read)
    rw [readWhole_of_values notEmpty decimal] at read
    split at read
    next => cases read
    next few =>
      cases read
      exact ⟨_, ⟨notEmpty, values, decimal, Nat.not_lt.1 few, rfl⟩, rfl⟩
  · rintro ⟨n, ⟨-, digits, values, few, rfl⟩, rfl⟩
    rw [readWhole_of_values notEmpty values, if_neg (Nat.not_lt.2 few)]

end ReviewGroups.Text
