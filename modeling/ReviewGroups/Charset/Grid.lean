/-
Module: ReviewGroups.Charset.Grid
Purpose: Tables of characters by row and column, and short lists of characters by code.
Trusted boundary: none
Main exports: Grid, Grid.char?, Grid.text?, CodeList, CodeList.ofRows, CodeList.text?
-/
import ReviewGroups.Charset.Piece
import ReviewGroups.Text.Chart

namespace ReviewGroups.Charset

/-- A table of characters in rows.  A full stop fills a place without a character, and so does the
end of a row. -/
structure Grid where
  rows : Array String
deriving Repr, Inhabited, DecidableEq

namespace Grid

/-- The character in a row and a column, both counted from zero. -/
def char? (grid : Grid) (row column : Nat) : Option Char :=
  (grid.rows[row]?).bind fun text =>
    (text.toList[column]?).bind fun c => if c = '.' then none else some c

/-- The character of a table of 94 rows and columns, both counted from 0x21. -/
def text? (grid : Grid) (first second : Nat) : Option (List Char) :=
  if 0x21 ≤ first ∧ 0x21 ≤ second then
    (grid.char? (first - 0x21) (second - 0x21)).map fun c => [c]
  else none

end Grid

/-- A run of codes: the first and the last one, and the code points that the first one stands for.
In a run of several codes the code point goes up with the code. -/
structure CodeRun where
  first : Nat
  last : Nat
  points : List Nat
deriving Repr, Inhabited, DecidableEq

namespace CodeRun

/-- Read a run: codes, an equals sign, and code points with plus signs between them. -/
def ofEntry (entry : List Char) : CodeRun :=
  let (codes, points) := (Text.cutAt '=' entry).getD (entry, [])
  let (first, last) := Text.Chart.readRun codes
  ⟨first, last, (Text.splitAt '+' points).map Text.Chart.readNumber⟩

end CodeRun

/-- Runs of codes. -/
structure CodeList where
  runs : List CodeRun
deriving Repr, Inhabited, DecidableEq

namespace CodeList

/-- The runs that rows list. -/
def ofRows (rows : List String) : CodeList :=
  ⟨rows.flatMap fun row => (Text.Chart.entries row).map CodeRun.ofEntry⟩

/-- A code lies in a run of the list. -/
def holds (list : CodeList) (code : Nat) : Bool :=
  list.runs.any fun run => run.first ≤ code && code ≤ run.last

/-- The characters that a code stands for. -/
def text? (list : CodeList) (code : Nat) : Option (List Char) :=
  (list.runs.find? fun run => run.first ≤ code && code ≤ run.last).map fun run =>
    run.points.map fun n => Char.ofNat (n + (code - run.first))

end CodeList

/-- The code of two bytes. -/
def code (first second : Nat) : Nat :=
  first * 0x100 + second

/-- The piece in front of bytes that are ASCII, or a pair with a first byte beyond it. -/
def pairPiece (text? : Nat → Nat → Option (List Char)) (_ : Unit) : List Nat → Piece Unit Char
  | [] => .cutOff
  | first :: rest =>
      if first < 0x80 then .found [Char.ofNat first] 1 ()
      else
        match rest with
        | [] => .cutOff
        | second :: _ =>
            match text? first second with
            | some cs => .found cs 2 ()
            | none => .malformed 1

/-- Read bytes that are ASCII, or pairs with a first byte beyond it. -/
def readPairs (text? : Nat → Nat → Option (List Char)) (bytes : List UInt8) : Units :=
  readStateless (pairPiece text?) bytes

end ReviewGroups.Charset
