/-
Module: ReviewGroups.Url.Punycode
Purpose: Labels beyond ASCII written in ASCII: the plain characters first, then where the others go.
Trusted boundary: none
Main exports: Punycode.encode, Punycode.decode?, Punycode.readLeniently
-/
import ReviewGroups.Text.Blank

namespace ReviewGroups.Url.Punycode

/-- The digit of a value below 36. -/
def digit (n : Nat) : Char :=
  if n < 26 then Char.ofNat (0x61 + n) else Char.ofNat (0x30 + (n - 26))

/-- The value of a digit, a letter in either case. -/
def digitValue? (c : Char) : Option Nat :=
  if 'a' ≤ c ∧ c ≤ 'z' then some (c.toNat - 0x61)
  else if 'A' ≤ c ∧ c ≤ 'Z' then some (c.toNat - 0x41)
  else if c.isDigit then some (c.toNat - 0x30 + 26)
  else none

/-- The threshold of a digit place: a digit below it is the last one of its number. -/
def threshold (place bias : Nat) : Nat :=
  if place ≤ bias then 1 else if bias + 26 ≤ place then 26 else place - bias

/-- A threshold lies between 1 and 26, so every further digit divides what is left. -/
theorem threshold_bounds (place bias : Nat) :
    1 ≤ threshold place bias ∧ threshold place bias ≤ 26 := by
  unfold threshold
  split
  · omega
  · split <;> omega

/-- Divide by 35 while the value is large. -/
def reduce (delta place : Nat) : Nat × Nat :=
  if 455 < delta then reduce (delta / 35) (place + 36) else (delta, place)
termination_by delta
decreasing_by exact Nat.div_lt_self (by omega) (by omega)

/-- The bias after a delta, with `count` code points written. -/
def adapt (delta count : Nat) (first : Bool) : Nat :=
  let start := if first then delta / 700 else delta / 2
  let (reduced, place) := reduce (start + start / count) 0
  place + 36 * reduced / (reduced + 38)

/-- A delta as digits of growing place. -/
def deltaDigits (bias place delta : Nat) : List Char :=
  let last := threshold place bias
  if delta < last then [digit delta]
  else
    digit (last + (delta - last) % (36 - last)) ::
      deltaDigits bias (place + 36) ((delta - last) / (36 - last))
termination_by delta
decreasing_by
  have bounds := threshold_bounds place bias
  have := Nat.div_le_self (delta - threshold place bias) (36 - threshold place bias)
  omega

/-- What has been written: the digits, the delta since the last insertion, the bias, and how many
code points of the label are covered. -/
structure Writing where
  digits : List Char
  delta : Nat
  bias : Nat
  covered : Nat
deriving Repr, Inhabited, DecidableEq

/-- Look at one code point of a label while `point` is being written; `plain` code points were
covered before the first one. -/
def visit (plain point : Nat) (writing : Writing) (n : Nat) : Writing :=
  if n < point then { writing with delta := writing.delta + 1 }
  else if n = point then
    { digits := writing.digits ++ deltaDigits writing.bias 36 writing.delta
      delta := 0
      bias := adapt writing.delta (writing.covered + 1) (writing.covered == plain)
      covered := writing.covered + 1 }
  else writing

/-- Write the code points beyond ASCII of a label, in ascending order; `reached` is the least one
that was not written yet. -/
def write (label : List Nat) (plain : Nat) : List Nat → Nat → Writing → Writing
  | [], _, writing => writing
  | point :: points, reached, writing =>
      let raised :=
        { writing with delta := writing.delta + (point - reached) * (writing.covered + 1) }
      let visited := label.foldl (visit plain point) raised
      write label plain points (point + 1) { visited with delta := visited.delta + 1 }

/-- A label in ASCII. -/
def encode (label : List Nat) : List Char :=
  let plain := label.filter (· < 0x80)
  let others := ((label.filter (0x80 ≤ ·)).mergeSort).eraseDups
  let written := write label plain.length others 0x80 ⟨[], 0, 72, plain.length⟩
  plain.map Char.ofNat ++ (if plain.isEmpty then [] else ['-']) ++ written.digits

/-- Read one delta, and answer it with the text after it. -/
def readDelta? (bias place weight value : Nat) : List Char → Option (Nat × List Char)
  | [] => none
  | c :: rest =>
      match digitValue? c with
      | none => none
      | some d =>
          let last := threshold place bias
          if d < last then some (value + d * weight, rest)
          else readDelta? bias (place + 36) (weight * (36 - last)) (value + d * weight) rest

/-- A delta takes at least one character. -/
theorem readDelta?_shorter {bias place weight value delta : Nat} {cs rest : List Char}
    (found : readDelta? bias place weight value cs = some (delta, rest)) :
    rest.length < cs.length := by
  induction cs generalizing place weight value with
  | nil => simp [readDelta?] at found
  | cons c others inductionHypothesis =>
      simp only [readDelta?] at found
      split at found
      · cases found
      · split at found
        · simp only [Option.some.injEq, Prod.mk.injEq] at found
          simp [← found.2]
        · exact Nat.lt_succ_of_lt (inductionHypothesis found)

/-- What has been read: the code points, the last one that was put in, the place after it, and the
bias. -/
structure Reading where
  points : List Nat
  point : Nat
  place : Nat
  bias : Nat
deriving Repr, Inhabited, DecidableEq

/-- The code point that a delta leads to. -/
def Reading.nextPoint (reading : Reading) (delta : Nat) : Nat :=
  reading.point + (reading.place + delta) / (reading.points.length + 1)

/-- Put in a code point at the place that a delta leads to. -/
def Reading.put (reading : Reading) (point delta : Nat) (first : Bool) : Reading :=
  let room := reading.points.length + 1
  let place := (reading.place + delta) % room
  { points := reading.points.take place ++ point :: reading.points.drop place
    point := point
    place := place + 1
    bias := adapt delta room first }

/-- Put in the code point that a delta leads to.  There is none beyond the last code point. -/
def Reading.insert? (reading : Reading) (delta : Nat) (first : Bool) : Option Reading :=
  let point := reading.nextPoint delta
  if 0x10FFFF < point then none else some (reading.put point delta first)

/-- Read deltas to the end of the text. -/
def read? (reading : Reading) (first : Bool) (cs : List Char) : Option (List Nat) :=
  match cs with
  | [] => some reading.points
  | c :: rest =>
      match found : readDelta? reading.bias 36 1 0 (c :: rest) with
      | none => none
      | some (delta, others) =>
          have := readDelta?_shorter found
          match reading.insert? delta first with
          | none => none
          | some reading => read? reading false others
termination_by cs.length
decreasing_by assumption

/-- Read deltas as far as they can be read.  A question mark stands for a code point beyond the last
one. -/
def readLeniently (reading : Reading) (first : Bool) (cs : List Char) : List Nat :=
  match cs with
  | [] => reading.points
  | c :: rest =>
      match found : readDelta? reading.bias 36 1 0 (c :: rest) with
      | none => reading.points
      | some (delta, others) =>
          have := readDelta?_shorter found
          let point := reading.nextPoint delta
          let shown := if 0x10FFFF < point then '?'.toNat else point
          readLeniently (reading.put shown delta first) false others
termination_by cs.length
decreasing_by assumption

/-- The code points of a label in ASCII: the plain ones stand before the last hyphen. -/
def decode? (cs : List Char) : Option (List Nat) :=
  let (deltas, plain) := (Text.cutAt '-' cs.reverse).getD (cs.reverse, [])
  read? ⟨plain.reverse.map Char.toNat, 0x80, 0, 72⟩ true deltas.reverse

end ReviewGroups.Url.Punycode
