/-
Module: ReviewGroups.Text.Blank
Purpose: The two notions of blank character, and trimming by either.
Trusted boundary: none
Main exports: isSpace, isBlank, trimList, trim, isBlankText, dropTrailing
-/

namespace ReviewGroups.Text

/-- The Unicode `White_Space` property. -/
def isSpace (c : Char) : Bool :=
  let n := c.toNat
  (0x09 ≤ n && n ≤ 0x0D) || n == 0x20 || n == 0x85 || n == 0xA0 || n == 0x1680 ||
    (0x2000 ≤ n && n ≤ 0x200A) || n == 0x2028 || n == 0x2029 || n == 0x202F || n == 0x205F ||
    n == 0x3000

/-- What trimming of free text removes: `White_Space` and the four separators 0x1C to 0x1F. -/
def isBlank (c : Char) : Bool :=
  isSpace c || (0x1C ≤ c.toNat && c.toNat ≤ 0x1F)

/-- Drop the characters that satisfy `p` from the end. -/
def dropTrailing (p : Char → Bool) (cs : List Char) : List Char :=
  (cs.reverse.dropWhile p).reverse

/-- Drop the characters that satisfy `p` from both ends. -/
def trimList (p : Char → Bool) (cs : List Char) : List Char :=
  dropTrailing p (cs.dropWhile p)

/-- Trim the blanks of a text. -/
def trim (s : String) : String :=
  String.ofList (trimList isBlank s.toList)

/-- Nothing but blanks. -/
def isBlankText (s : String) : Bool :=
  s.toList.all isBlank

/-- Remove every slash at the end of a text. -/
def dropTrailingSlashes (s : String) : String :=
  String.ofList (dropTrailing (· == '/') s.toList)

/-- Cut a text at every occurrence of a character; a text without it is one piece. -/
def splitAt (mark : Char) : List Char → List (List Char)
  | [] => [[]]
  | c :: rest =>
      if c = mark then [] :: splitAt mark rest
      else
        match splitAt mark rest with
        | [] => [[c]]
        | piece :: pieces => (c :: piece) :: pieces

/-- A split text has at least one piece. -/
theorem splitAt_ne_nil (mark : Char) (cs : List Char) : splitAt mark cs ≠ [] := by
  cases cs with
  | nil => simp [splitAt]
  | cons c rest =>
      by_cases hit : c = mark
      · simp [splitAt, hit]
      · simp only [splitAt, hit, if_false]
        split <;> simp

/-- The parts before and after the first occurrence of a character, if there is one. -/
def cutAt (mark : Char) : List Char → Option (List Char × List Char)
  | [] => none
  | c :: rest =>
      if c = mark then some ([], rest)
      else (cutAt mark rest).map fun parts => (c :: parts.1, parts.2)

end ReviewGroups.Text
