/-
Module: ReviewGroups.Check.Basic
Purpose: Checking values against what they should be, with every issue found on the way.
Trusted boundary: none
Main exports: Place, IssueKind, Issue, Check, Check.within, Check.ofOption
-/

namespace ReviewGroups

/-- A step into a value. -/
inductive Place where
  | field (name : String)
  | index (n : Nat)
deriving Repr, Inhabited, DecidableEq

/-- What can be wrong with a part of a value. -/
inductive IssueKind where
  | missing
  | notText
  | notWhole
  | notReadAsWhole
  | hasFraction
  | tooLarge
  | notFinite
  | notTruth
  | notReadAsTruth
  | notNumber
  | notReadAsNumber
  | notList
  | notTuple
  | notRecord
  | notOption
deriving Repr, Inhabited, DecidableEq

/-- The code of a kind of issue. -/
def IssueKind.code : IssueKind → String
  | .missing => "missing"
  | .notText => "string_type"
  | .notWhole => "int_type"
  | .notReadAsWhole => "int_parsing"
  | .hasFraction => "int_from_float"
  | .tooLarge => "int_parsing_size"
  | .notFinite => "finite_number"
  | .notTruth => "bool_type"
  | .notReadAsTruth => "bool_parsing"
  | .notNumber => "float_type"
  | .notReadAsNumber => "float_parsing"
  | .notList => "list_type"
  | .notTuple => "tuple_type"
  | .notRecord => "model_type"
  | .notOption => "enum"

/-- An issue, and the steps that lead to it from the outside in. -/
structure Issue where
  places : List Place
  kind : IssueKind
deriving Repr, Inhabited, DecidableEq

/-- The outcome of a check: the value as it should be, or what is wrong with it. -/
inductive Check (α : Type) where
  | valid (value : α)
  | invalid (issues : List Issue)
deriving Repr, Inhabited

namespace Check

variable {α β : Type}

/-- A single issue at the value itself. -/
def fault (kind : IssueKind) : Check α :=
  .invalid [⟨[], kind⟩]

/-- Change the value of a check that passed. -/
def map (f : α → β) : Check α → Check β
  | .valid value => .valid (f value)
  | .invalid issues => .invalid issues

/-- Two checks side by side: both must pass, and the issues of both are kept in order. -/
def seq (first : Check (α → β)) (second : Check α) : Check β :=
  match first, second with
  | .valid f, .valid value => .valid (f value)
  | .valid _, .invalid issues => .invalid issues
  | .invalid issues, .valid _ => .invalid issues
  | .invalid issues, .invalid more => .invalid (issues ++ more)

instance : Applicative Check where
  pure := .valid
  map f check := check.map f
  seq first second := first.seq (second ())

/-- A check of a part, its issues seen from outside. -/
def within (place : Place) : Check α → Check α
  | .valid value => .valid value
  | .invalid issues =>
      .invalid (issues.map fun issue => { issue with places := place :: issue.places })

/-- The value, or a single issue for none. -/
def ofOption (kind : IssueKind) : Option α → Check α
  | some value => .valid value
  | none => fault kind

/-- The value of a check that passed. -/
def toOption : Check α → Option α
  | .valid value => some value
  | .invalid _ => none

end Check

end ReviewGroups
