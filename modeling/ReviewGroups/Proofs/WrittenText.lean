/-
Module: ReviewGroups.Proofs.WrittenText
Purpose: Quoted texts and whole numbers are read back as they were written, whatever follows them.
  Which characters are escaped, and how, is a parameter (`IsEscape`), for writers that keep
  characters beyond ASCII and writers that do not.
Trusted boundary: none
Main exports: Json.readText_escape, Json.IsEscape, Json.writeQuoted, Json.readQuoted_writeQuoted,
  Json.StopsNumber, Json.readNumber_whole
-/
import Mathlib.Data.List.Basic
import ReviewGroups.Json.Reader
import ReviewGroups.Json.Writer

namespace ReviewGroups

namespace Text.Hex

private theorem value?_lowerDigit {n : Nat} (small : n < 16) : value? (lowerDigit n) = some n := by
  have all : ∀ n < 16, value? (lowerDigit n) = some n := by decide
  exact all n small

/-- Four digits are read as the unit that they were written for. -/
theorem exists_digits_unit {n : Nat} (small : n < 0x10000) :
    ∃ a b c d, digits 4 n = [a, b, c, d] ∧ unit? a b c d = some n := by
  refine ⟨lowerDigit (n / 16 / 16 / 16 % 16), lowerDigit (n / 16 / 16 % 16),
    lowerDigit (n / 16 % 16), lowerDigit (n % 16), by simp [digits], ?_⟩
  simp only [unit?, value?_lowerDigit (Nat.mod_lt _ (by decide : 0 < 16)), Option.bind_eq_bind,
    Option.bind_some, Option.pure_def, Option.some.injEq]
  omega

end Text.Hex

namespace Json

open Text

variable {cs rest : List Char}

/-! ### Quoted texts -/

/-- A unit that is no half of a pair is read as its character, if something follows it. -/
theorem readText_unit {a b c d : Char} {unit : Nat} (opening : List Char)
    (written : Hex.unit? a b c d = some unit) (whole : Utf16.isHigh unit = false)
    (more : rest ≠ []) :
    readText opening ('\\' :: 'u' :: a :: b :: c :: d :: rest) =
      prepend (Utf16.single unit) (readText opening rest) := by
  obtain ⟨next, after, rfl⟩ := List.exists_cons_of_ne_nil more
  rw [readText.eq_def]
  simp only
  split
  next none => cases none
  next none => cases written.symm.trans none
  next same found =>
    cases written.symm.trans found
    rw [whole, same]
    rfl
  next same found =>
    cases written.symm.trans found
    rw [same]

/-- A character is read back from its escape, if something follows it. -/
theorem readText_escape (opening : List Char) (c : Char) (more : rest ≠ []) :
    readText opening (escapeChar c ++ rest) = prepend c (readText opening rest) := by
  unfold escapeChar
  split
  -- All other characters are escaped by a letter of their own.
  case h_8 noQuote noEscape _ _ _ _ _ =>
    split
    next control =>
      obtain ⟨w, x, y, z, written, unit⟩ :=
        Hex.exists_digits_unit (Nat.lt_trans control (by decide : 0x20 < 0x10000))
      have whole : Utf16.isHigh c.toNat = false := by
        simp only [Utf16.isHigh, Bool.and_eq_false_iff, decide_eq_false_iff_not]
        omega
      have single : Utf16.single c.toNat = c := by
        have notLow : Utf16.isLow c.toNat = false := by
          simp only [Utf16.isLow, Bool.and_eq_false_iff, decide_eq_false_iff_not]
          omega
        rw [Utf16.single, whole, notLow]
        exact Char.ofNat_toNat c
      rw [written]
      exact (readText_unit opening unit whole more).trans (by rw [single])
    next printable =>
      rw [List.singleton_append, readText, if_neg printable]
      · exact noQuote
      all_goals
        intros
        exact absurd ‹c = _› noEscape
  all_goals
    rw [List.cons_append, List.singleton_append, readText]
    · rfl
    all_goals simp

/-- Every character is read back from what `escape` writes for it, if something follows it. -/
structure IsEscape (escape : Char → List Char) : Prop where
  back : ∀ (opening : List Char) (c : Char) (rest : List Char), rest ≠ [] →
    readText opening (escape c ++ rest) = prepend c (readText opening rest)

theorem escapeChar_isEscape : IsEscape escapeChar :=
  ⟨fun opening c _ more => readText_escape opening c more⟩

/-- A text between quotes, with `escape` for its characters. -/
def writeQuoted (escape : Char → List Char) (s : String) : List Char :=
  '"' :: s.toList.flatMap escape ++ ['"']

variable {escape : Char → List Char}

private theorem readText_escapes (escapes : IsEscape escape) (opening cs rest : List Char) :
    readText opening (cs.flatMap escape ++ '"' :: rest) = .ok (cs, rest) := by
  induction cs with
  | nil => rfl
  | cons c cs inductionHypothesis =>
      rw [List.flatMap_cons, List.append_assoc, escapes.back opening c _ (by simp),
        inductionHypothesis]
      rfl

/-- A quoted text is read back. -/
theorem readQuoted_writeQuoted (escapes : IsEscape escape) (flaw : Flaw) (s : String)
    (rest : List Char) :
    ∃ shorter, readQuoted flaw (writeQuoted escape s ++ rest) = .ok ⟨s, rest, shorter⟩ := by
  have written :
      writeQuoted escape s ++ rest = '"' :: (s.toList.flatMap escape ++ '"' :: rest) := by
    simp [writeQuoted]
  have read :=
    readText_escapes escapes ('"' :: (s.toList.flatMap escape ++ '"' :: rest)) s.toList rest
  rw [written]
  simp only [readQuoted]
  split
  next failed =>
    rw [read] at failed
    cases failed
  next found =>
    rw [read] at found
    cases found
    exact ⟨by simp; omega, by simp [String.ofList_toList]⟩

/-! ### Whole numbers -/

/-- A text does not go on with a number that ends before it. -/
def StopsNumber (cs : List Char) : Prop :=
  ∀ c, cs.head? = some c → c.isDigit = false ∧ c ≠ '.' ∧ c ≠ 'e' ∧ c ≠ 'E'

private theorem head?_toDigits {n : Nat} (notZero : n ≠ 0) :
    (Nat.toDigits 10 n).head? ≠ some '0' := by
  induction n using Nat.strongRecOn with
  | ind n inductionHypothesis =>
      by_cases small : n < 10
      · rw [Nat.toDigits_of_lt_base small]
        simp [Nat.digitChar_eq_zero, notZero]
      · rw [Nat.toDigits_of_base_le (by decide : 1 < 10) (by omega),
          List.head?_append_of_ne_nil _ Nat.toDigits_ne_nil]
        exact inductionHypothesis (n / 10) (by omega) (by omega)

private theorem takeWhile_isDigit (digits : ∀ c ∈ cs, c.isDigit = true) (stops : StopsNumber rest) :
    (cs ++ rest).takeWhile Char.isDigit = cs ∧ (cs ++ rest).dropWhile Char.isDigit = rest := by
  have none : rest.takeWhile Char.isDigit = [] ∧ rest.dropWhile Char.isDigit = rest := by
    cases rest with
    | nil => simp
    | cons c rest => simp [(stops c rfl).1]
  rw [List.takeWhile_append_of_pos digits, List.dropWhile_append_of_pos digits, none.1, none.2]
  simp

/-- The digits of a number are its whole part, whatever else follows them. -/
theorem scanWhole?_toDigits (n : Nat) (stops : StopsNumber rest) :
    NumberForm.scanWhole? (Nat.toDigits 10 n ++ rest) = some (Nat.toDigits 10 n, rest) := by
  by_cases zero : n = 0
  · subst zero
    rfl
  · have digits : ∀ c ∈ Nat.toDigits 10 n, c.isDigit = true := fun c present =>
      Nat.isDigit_of_mem_toDigits (by decide) (by decide) present
    have first := head?_toDigits zero
    obtain ⟨c, more, written⟩ := List.exists_cons_of_ne_nil (@Nat.toDigits_ne_nil n 10)
    rw [written] at digits first ⊢
    obtain ⟨taken, dropped⟩ :=
      takeWhile_isDigit (fun d present => digits d (List.mem_cons_of_mem _ present)) stops
    rw [List.cons_append, NumberForm.scanWhole?]
    · rw [if_pos (digits c List.mem_cons_self), taken, dropped]
    · rintro rfl
      exact first rfl

/-- A whole number that is written starts with a digit or a minus sign. -/
theorem scan?_toDigits (negative : Bool) (n : Nat) (stops : StopsNumber rest) :
    NumberForm.scan? ((if negative then ['-'] else []) ++ (Nat.toDigits 10 n ++ rest)) =
      some (⟨negative, Nat.toDigits 10 n, [], []⟩, rest) := by
  have sign : NumberForm.scanSign ((if negative then ['-'] else []) ++
      (Nat.toDigits 10 n ++ rest)) = (negative, Nat.toDigits 10 n ++ rest) := by
    cases negative with
    | true => rfl
    | false =>
        obtain ⟨c, more, written⟩ :=
          List.exists_cons_of_ne_nil (@Nat.toDigits_ne_nil n 10)
        have digit : c.isDigit = true :=
          Nat.isDigit_of_mem_toDigits (n := n) (by decide) (by decide : 10 ≤ 10) (by simp [written])
        rw [written]
        change NumberForm.scanSign (c :: (more ++ rest)) = (false, c :: (more ++ rest))
        rw [NumberForm.scanSign]
        rintro after same
        rw [(List.cons.inj same).1] at digit
        exact absurd digit (by decide)
  have fraction : NumberForm.scanFraction rest = ([], rest) := by
    unfold NumberForm.scanFraction
    split
    next after => exact absurd rfl (stops '.' rfl).2.1
    next => rfl
  have exponent : NumberForm.scanExponent rest = ([], rest) := by
    unfold NumberForm.scanExponent
    split
    next mark after =>
      obtain ⟨-, -, lower, upper⟩ := stops mark rfl
      simp [lower, upper]
    next => rfl
  simp only [NumberForm.scan?, sign, scanWhole?_toDigits n stops, Option.map_some, fraction,
    exponent]

/-- A whole number has few enough digits to be read. -/
def IsShort (n : Int) : Prop :=
  (Nat.toDigits 10 n.natAbs).length ≤ digitLimit

/-- A whole number is written as its digits, behind a minus sign if it is below zero. -/
theorem toList_toString_int (n : Int) :
    (toString n).toList = (if n < 0 then ['-'] else []) ++ Nat.toDigits 10 n.natAbs := by
  cases n with
  | ofNat n =>
      rw [if_neg (by simp)]
      exact Nat.toList_repr
  | negSucc n =>
      rw [if_pos (Int.negSucc_lt_zero n)]
      change ("-" ++ (n + 1).repr).toList = _
      rw [String.toList_append, Nat.toList_repr]
      rfl

/-- A whole number is read back, if it has few enough digits and nothing that follows belongs to
it. -/
theorem readNumber_whole {n : Int} (short : IsShort n) (stops : StopsNumber rest) :
    ∃ shorter, readNumber ((toString n).toList ++ rest) = .ok ⟨.int n, rest, shorter⟩ := by
  have scanned := scan?_toDigits (decide (n < 0)) n.natAbs stops
  have value : NumberForm.value ⟨decide (n < 0), Nat.toDigits 10 n.natAbs, [], []⟩ =
      .ok (.int n) := by
    simp only [NumberForm.value, Binary64.digitsValue]
    rw [if_pos (by rfl), if_neg (Nat.not_lt.2 short),
      Nat.ofDigitChars_toDigits (by decide) (by decide)]
    congr 2
    by_cases negative : n < 0
    · simp only [negative, decide_true, if_true]
      omega
    · simp only [negative, decide_false, Bool.false_eq_true, if_false]
      omega
  have written : (toString n).toList ++ rest =
      (if decide (n < 0) then ['-'] else []) ++ (Nat.toDigits 10 n.natAbs ++ rest) := by
    rw [toList_toString_int, List.append_assoc]
    simp
  rw [written]
  unfold readNumber
  split
  next none =>
    rw [scanned] at none
    cases none
  next form after found =>
    rw [scanned] at found
    cases found
    rw [value]
    exact ⟨NumberForm.scan?_shorter scanned, rfl⟩

end Json

end ReviewGroups
