/-
Module: ReviewGroups.Text.Chart
Purpose: Tables of characters in the notation of code charts, and looking code points up in them.
Trusted boundary: none
Main exports: Chart.readRun, Chart.readRuns, Chart.points, Chart.nth?, PointSet, PointSet.ofRows,
  PointSet.holds, PointMap, PointMap.ofEntries, PointMap.find?
-/
import ReviewGroups.Text.Blank
import ReviewGroups.Text.Hex

namespace ReviewGroups.Text

namespace Chart

/-- A number in hexadecimal digits; any other character counts as a zero. -/
def readNumber (digits : List Char) : Nat :=
  digits.foldl (fun n c => 16 * n + (Hex.value? c).getD 0) 0

/-- One code point, or the first and the last one of a run with a hyphen between them. -/
def readRun (entry : List Char) : Nat × Nat :=
  match cutAt '-' entry with
  | some (first, last) => (readNumber first, readNumber last)
  | none => (readNumber entry, readNumber entry)

/-- The entries of a row, which have a space between them. -/
def entries (row : String) : List (List Char) :=
  (splitAt ' ' row.toList).filter (!·.isEmpty)

/-- The runs of code points that rows list. -/
def readRuns (rows : List String) : List (Nat × Nat) :=
  rows.flatMap fun row => (entries row).map readRun

/-- Every code point of the runs that rows list, in order. -/
def points (rows : List String) : List Nat :=
  (readRuns rows).flatMap fun run => (List.range (run.2 + 1 - run.1)).map (run.1 + ·)

/-- The code point with a number, counted from zero through all runs. -/
def nth? : List (Nat × Nat) → Nat → Option Nat
  | [], _ => none
  | (first, last) :: runs, n =>
      let size := last + 1 - first
      if n < size then some (first + n) else nth? runs (n - size)

end Chart

/-- How many of the entries from `low` up to `high` of an ascending table have a key up to `n`,
counted from the start of the table. -/
def countUpTo {α : Type} (table : Array (Nat × α)) (n low high : Nat) : Nat :=
  if low < high then
    let middle := (low + high) / 2
    if table[middle]?.any fun entry => entry.1 ≤ n then countUpTo table n (middle + 1) high
    else countUpTo table n low middle
  else low
termination_by high - low

/-- The last entry of an ascending table that has a key up to `n`. -/
def lastUpTo? {α : Type} (table : Array (Nat × α)) (n : Nat) : Option (Nat × α) :=
  match countUpTo table n 0 table.size with
  | 0 => none
  | count + 1 => table[count]?

/-- A set of code points, as ascending runs without overlap. -/
structure PointSet where
  runs : Array (Nat × Nat)
deriving Repr, Inhabited, DecidableEq

namespace PointSet

/-- The set that rows of a chart list in ascending order. -/
def ofRows (rows : List String) : PointSet :=
  ⟨(Chart.readRuns rows).toArray⟩

/-- A code point lies in the set. -/
def holds (set : PointSet) (n : Nat) : Bool :=
  (lastUpTo? set.runs n).any fun run => n ≤ run.2

end PointSet

/-- Values under ascending keys. -/
structure PointMap (α : Type) where
  entries : Array (Nat × α)
deriving Repr, Inhabited

namespace PointMap

variable {α : Type}

/-- The map of entries in any order; of those with one key any may count. -/
def ofEntries (entries : List (Nat × α)) : PointMap α :=
  ⟨(entries.mergeSort fun one other => one.1 ≤ other.1).toArray⟩

/-- The value under a key. -/
def find? (map : PointMap α) (n : Nat) : Option α :=
  (lastUpTo? map.entries n).bind fun entry => if entry.1 = n then some entry.2 else none

end PointMap

end ReviewGroups.Text
