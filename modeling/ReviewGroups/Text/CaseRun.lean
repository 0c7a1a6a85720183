/-
Module: ReviewGroups.Text.CaseRun
Purpose: Runs of letters whose other case lies at a constant distance.
Trusted boundary: none
Main exports: CaseRun, CaseRun.holds, CaseRun.image, CaseRun.map?
-/

namespace ReviewGroups.Text

/-- Characters whose other case is one character at a constant distance: `first`, `first + stride`,
up to `last` go to `target`, `target + stride` and so on. -/
structure CaseRun where
  first : Nat
  last : Nat
  stride : Nat
  target : Nat
deriving Repr, Inhabited, DecidableEq

namespace CaseRun

/-- The run holds the code point. -/
def holds (run : CaseRun) (n : Nat) : Bool :=
  run.first ≤ n && n ≤ run.last && (n - run.first) % run.stride == 0

/-- Where the run takes a code point. -/
def image (run : CaseRun) (n : Nat) : Nat :=
  run.target + (n - run.first)

/-- Where the first run that holds a code point takes it. -/
def map? (runs : Array CaseRun) (n : Nat) : Option Nat :=
  (runs.find? (·.holds n)).map (·.image n)

end CaseRun

end ReviewGroups.Text
