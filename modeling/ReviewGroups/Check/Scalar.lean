/-
Module: ReviewGroups.Check.Scalar
Purpose: Checking single values as text, whole numbers, truth values, numbers and display options.
Trusted boundary: none
Main exports: Check.text, Check.whole, Check.truth, Check.number, Check.option, Check.optional
-/
import ReviewGroups.Check.Basic
import ReviewGroups.Number.FloatText
import ReviewGroups.Text.Digit
import ReviewGroups.Value.Basic

namespace ReviewGroups.Check

/-- Text, or an option by its name. -/
def text : Value → Check String
  | .text s => .valid s
  | .option o => .valid o.name
  | _ => fault .notText

/-- Drop zeros, and underscores after the first of them, in front of a number.  A zero stays in
front of a point or of nothing; a minus after zeros stands where a digit may stand; a text that
starts like no number is refused. -/
def dropLeadingZeros (cs : List Char) : Option (List Char) :=
  match cs with
  | '0' :: rest => go '0' rest
  | c :: _ => if c = '-' ∨ c.isDigit then some cs else none
  | [] => none
where
  go (last : Char) : List Char → Option (List Char)
    | [] => some [last]
    | c :: rest =>
        if c = '0' ∨ c = '_' then go c rest
        else if c.isDigit ∨ c = '-' then some (c :: rest)
        else if c = '.' then some (last :: c :: rest)
        else none

/-- Drop a point that is followed by zeros only, and them. -/
def dropZeroFraction (cs : List Char) : List Char :=
  match Text.cutAt '.' cs with
  | some (whole, fraction) =>
      if !fraction.isEmpty && fraction.all (· == '0') then whole else cs
  | none => cs

/-- Remove underscores, none of which may stand at an end or beside another. -/
def dropUnderscores (cs : List Char) : Option (List Char) :=
  if Text.underscoresSingle cs then some (cs.filter (· != '_')) else none

/-- A number in its plain form: perhaps a minus, and digits, of which a zero comes first only when
it is alone.  A run of digits beyond the limit is refused before anything that follows it is looked
at. -/
def plainWhole (cs : List Char) : Except Text.WholeFault Int :=
  let negative := cs.head? == some '-'
  let digits := if negative then cs.drop 1 else cs
  let run := digits.takeWhile Char.isDigit
  if run.head? == some '0' && 1 < run.length then .error .notWhole
  else if Text.digitLimit < run.length then .error (.tooLong run.length)
  else if run.isEmpty || run.length < digits.length then .error .notWhole
  else
    let magnitude : Int := Binary64.digitsValue run
    .ok (if negative then -magnitude else magnitude)

/-- A number without its ornaments, as far as it has the shape of one: a plus, zeros in front, a
fraction of zeros and single underscores go.  A minus is set aside while this is done. -/
def unadorn (cs : List Char) : Option (List Char) :=
  let unsigned :=
    match cs with
    | '+' :: '-' :: _ => cs
    | '+' :: rest => rest
    | _ => cs
  let (sign, magnitude) :=
    match unsigned with
    | '-' :: rest => (['-'], rest)
    | _ => ([], unsigned)
  (((dropLeadingZeros magnitude).map dropZeroFraction).bind dropUnderscores).map (sign ++ ·)

/-- Read a whole number: in its plain form, or with spaces at the ends and ornaments.  Only of a
number that starts in its plain form is it said that it is too long. -/
def wholeOfText (s : String) : Check Int :=
  match plainWhole s.toList with
  | .ok n => .valid n
  | .error (.tooLong _) => fault .tooLarge
  | .error .notWhole =>
      ofOption .notReadAsWhole
        ((unadorn (Text.trimList Text.isSpace s.toList)).bind fun cs => (plainWhole cs).toOption)

/-- The magnitude from which on a number with a fraction part is not taken as whole: two to the
power of 63. -/
def wholeBound : Int := 0x8000000000000000

/-- A finite number without fraction and of moderate size. -/
def wholeOfNumber (x : Binary64) : Check Int :=
  if !x.isFinite then fault .notFinite
  else
    match x.toInt? with
    | none => fault .hasFraction
    | some n => if -wholeBound < n ∧ n < wholeBound then .valid n else fault .tooLarge

/-- A whole number, also as text, as a truth value, or as a number without fraction. -/
def whole : Value → Check Int
  | .int n => .valid n
  | .bool b => .valid (if b then 1 else 0)
  | .float x => wholeOfNumber x
  | .text s => wholeOfText s
  | .option o => wholeOfText o.name
  | _ => fault .notWhole

/-- The words for yes. -/
def yesWords : List String := ["1", "on", "t", "true", "y", "yes"]

/-- The words for no. -/
def noWords : List String := ["0", "off", "f", "false", "n", "no"]

/-- A word for yes or no, in any case of its ASCII letters. -/
def truthOfText (s : String) : Check Bool :=
  let word := String.ofList (s.toList.map Char.toLower)
  if word ∈ yesWords then .valid true
  else if word ∈ noWords then .valid false
  else fault .notReadAsTruth

/-- One for yes, zero for no.  A number too large for a machine word is no truth value at all. -/
def truthOfWhole (n : Int) : Check Bool :=
  if n = 1 then .valid true
  else if n = 0 then .valid false
  else if -wholeBound ≤ n ∧ n < wholeBound then fault .notReadAsTruth
  else fault .notTruth

/-- A truth value, also as a word, as zero or as one. -/
def truth : Value → Check Bool
  | .bool b => .valid b
  | .int n => truthOfWhole n
  | .float x =>
      match wholeOfNumber x with
      | .valid n => truthOfWhole n
      | .invalid _ => fault .notTruth
  | .text s => truthOfText s
  | .option o => truthOfText o.name
  | _ => fault .notTruth

/-- Read a number: with spaces at the ends, or with single underscores anywhere between, but not
with both. -/
def numberOfText (s : String) : Check Binary64 :=
  match Binary64.read? (Text.trimList Text.isSpace s.toList) with
  | some x => .valid x
  | none => ofOption .notReadAsNumber ((dropUnderscores s.toList).bind Binary64.read?)

/-- A number, also as text or as a truth value. -/
def number : Value → Check Binary64
  | .float x => .valid x
  | .int n =>
      let x := Binary64.ofInt n
      if x.isFinite then .valid x else fault .notNumber
  | .bool b => .valid (Binary64.ofInt (if b then 1 else 0))
  | .text s => numberOfText s
  | .option o => numberOfText o.name
  | _ => fault .notNumber

/-- A display option, also by its exact name. -/
def option : Value → Check DisplayOption
  | .option o => .valid o
  | .text s => ofOption .notOption (DisplayOption.ofName? s)
  | _ => fault .notOption

/-- Null, or what the check asks for. -/
def optional {α : Type} (check : Value → Check α) : Value → Check (Option α)
  | .null => .valid none
  | value => (check value).map some

end ReviewGroups.Check
