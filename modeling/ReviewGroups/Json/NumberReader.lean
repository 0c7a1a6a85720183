/-
Module: ReviewGroups.Json.NumberReader
Purpose: Reading a number of a JSON document: its longest written form, then its value.
Trusted boundary: none
Main exports: NumberForm, NumberForm.scan?, NumberForm.scan?_shorter, NumberForm.value
-/
import ReviewGroups.Json.Basic
import ReviewGroups.Json.Fault
import ReviewGroups.Number.FloatText

namespace ReviewGroups.Json

/-- A number as it is written: the digits before the point, those after it, and the exponent with
its sign.  A number without point and exponent is whole. -/
structure NumberForm where
  negative : Bool
  whole : List Char
  fraction : List Char
  exponent : List Char
deriving Repr, Inhabited, DecidableEq

namespace NumberForm

/-- A zero, or digits that start with another one. -/
def scanWhole? (cs : List Char) : Option (List Char × List Char) :=
  match cs with
  | '0' :: rest => some (['0'], rest)
  | c :: rest =>
      if c.isDigit then some (c :: rest.takeWhile Char.isDigit, rest.dropWhile Char.isDigit)
      else none
  | [] => none

/-- A point with at least one digit after it, or nothing. -/
def scanFraction (cs : List Char) : List Char × List Char :=
  match cs with
  | '.' :: rest =>
      if rest.head?.any Char.isDigit then Binary64.spanDigits rest else ([], cs)
  | _ => ([], cs)

/-- Either sign, as it is written. -/
def scanEitherSign (cs : List Char) : List Char × List Char :=
  match cs with
  | '-' :: rest => (['-'], rest)
  | '+' :: rest => (['+'], rest)
  | _ => ([], cs)

/-- An exponent mark, perhaps a sign, and at least one digit, or nothing. -/
def scanExponent (cs : List Char) : List Char × List Char :=
  match cs with
  | mark :: rest =>
      let (sign, digits) := scanEitherSign rest
      if (mark = 'e' ∨ mark = 'E') ∧ digits.head?.any Char.isDigit then
        (mark :: sign ++ digits.takeWhile Char.isDigit, digits.dropWhile Char.isDigit)
      else ([], cs)
  | [] => ([], cs)

/-- The sign of a number. -/
def scanSign (cs : List Char) : Bool × List Char :=
  match cs with
  | '-' :: rest => (true, rest)
  | _ => (false, cs)

/-- The longest number at the start of a text, and what follows it. -/
def scan? (cs : List Char) : Option (NumberForm × List Char) :=
  (scanWhole? (scanSign cs).2).map fun (whole, afterWhole) =>
    let fraction := scanFraction afterWhole
    let exponent := scanExponent fraction.2
    (⟨(scanSign cs).1, whole, fraction.1, exponent.1⟩, exponent.2)

/-- Dropping characters makes no text longer. -/
theorem dropWhile_length_le (p : Char → Bool) (cs : List Char) :
    (cs.dropWhile p).length ≤ cs.length :=
  (List.dropWhile_sublist p).length_le

/-- A whole part takes at least one character. -/
theorem scanWhole?_shorter {cs whole rest : List Char}
    (found : scanWhole? cs = some (whole, rest)) :
    rest.length < cs.length := by
  unfold scanWhole? at found
  split at found
  · simp only [Option.some.injEq, Prod.mk.injEq] at found
    simp [← found.2]
  · next c tail _ =>
    split at found
    · simp only [Option.some.injEq, Prod.mk.injEq] at found
      have := dropWhile_length_le Char.isDigit tail
      simp only [← found.2, List.length_cons]
      omega
    · cases found
  · cases found

/-- A fraction adds nothing to the text. -/
theorem scanFraction_le (cs : List Char) : (scanFraction cs).2.length ≤ cs.length := by
  unfold scanFraction
  split
  · next rest =>
    split
    · have := dropWhile_length_le Char.isDigit rest
      simp only [Binary64.spanDigits, List.length_cons]
      omega
    · exact Nat.le_refl _
  · exact Nat.le_refl _

/-- A sign of an exponent adds nothing to the text. -/
theorem scanEitherSign_le (cs : List Char) : (scanEitherSign cs).2.length ≤ cs.length := by
  unfold scanEitherSign
  split <;> simp

/-- An exponent adds nothing to the text. -/
theorem scanExponent_le (cs : List Char) : (scanExponent cs).2.length ≤ cs.length := by
  unfold scanExponent
  split
  · next mark rest =>
    dsimp only
    split
    · have := dropWhile_length_le Char.isDigit (scanEitherSign rest).2
      have := scanEitherSign_le rest
      simp only [List.length_cons]
      omega
    · exact Nat.le_refl _
  · exact Nat.le_refl _

/-- A sign adds nothing to the text. -/
theorem scanSign_le (cs : List Char) : (scanSign cs).2.length ≤ cs.length := by
  unfold scanSign
  split <;> simp

/-- A number uses up at least one digit. -/
theorem scan?_shorter {cs rest : List Char} {form : NumberForm}
    (found : scan? cs = some (form, rest)) : rest.length < cs.length := by
  simp only [scan?, Option.map_eq_some_iff, Prod.mk.injEq] at found
  obtain ⟨⟨whole, afterWhole⟩, wholeFound, -, rfl⟩ := found
  have := scanWhole?_shorter wholeFound
  have := scanSign_le cs
  have := scanFraction_le afterWhole
  have := scanExponent_le (scanFraction afterWhole).2
  dsimp only at *
  omega

/-- The number that a written form denotes.  Only whole numbers have a limit of digits. -/
def value (form : NumberForm) : Except Flaw Json :=
  if form.fraction.isEmpty && form.exponent.isEmpty then
    if Text.digitLimit < form.whole.length then .error (.numberTooLong form.whole.length)
    else
      let magnitude : Int := Binary64.digitsValue form.whole
      .ok (.int (if form.negative then -magnitude else magnitude))
  else
    let place := (Binary64.readExponent? form.exponent).getD 0 - form.fraction.length
    .ok (.float
      (Binary64.ofDecimal form.negative (Binary64.digitsValue (form.whole ++ form.fraction)) place))

end NumberForm

end ReviewGroups.Json
