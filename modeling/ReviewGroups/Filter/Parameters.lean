/-
Module: ReviewGroups.Filter.Parameters
Purpose: Filters as the query parameters of a request.
Trusted boundary: none
Main exports: Parameter, ListFilter.parameters, QueryFilter.parameters, Parameter.toValue
-/
import ReviewGroups.Filter.Basic
import ReviewGroups.Value.Basic

namespace ReviewGroups

/-- What a parameter can be set to. -/
inductive ParameterValue where
  | text (s : String)
  | whole (n : Int)
deriving Repr, Inhabited, DecidableEq

/-- A parameter: its name, and what it is set to. -/
abbrev Parameter := String × ParameterValue

namespace Parameter

/-- One parameter for a text that is set. -/
def ofText (name : String) : Option String → List Parameter
  | none => []
  | some s => [(name, .text s)]

/-- One parameter for each text. -/
def ofTexts (name : String) (texts : List String) : List Parameter :=
  texts.map fun s => (name, .text s)

/-- One parameter for a flag that is on. -/
def ofFlag (name : String) (on : Bool) : List Parameter :=
  if on then [(name, .text "true")] else []

/-- One parameter for a number above zero. -/
def ofPositive (name : String) (n : Int) : List Parameter :=
  if 0 < n then [(name, .whole n)] else []

/-- A parameter as a pair of values. -/
def toValue (parameter : Parameter) : Value :=
  .items .tuple
    [.text parameter.1,
      match parameter.2 with
      | .text s => .text s
      | .whole n => .int n]

end Parameter

/-- The parameters of a list filter.  Texts that are empty are sent, numbers that are not above zero
are not. -/
def ListFilter.parameters (filter : ListFilter) : List Parameter :=
  Parameter.ofTexts "o" (filter.options.map DisplayOption.name) ++
    Parameter.ofTexts "p" filter.projects ++
    Parameter.ofTexts "g" filter.groups ++
    Parameter.ofFlag "visible-to-all" filter.visibleToAll ++
    Parameter.ofText "user" filter.user ++
    Parameter.ofFlag "owned" filter.owned ++
    Parameter.ofPositive "n" filter.limit ++
    Parameter.ofPositive "S" filter.start ++
    Parameter.ofText "m" filter.substring ++
    Parameter.ofText "suggest" filter.suggest

/-- The parameters of a query filter. -/
def QueryFilter.parameters (filter : QueryFilter) : List Parameter :=
  Parameter.ofText "query" filter.query ++
    Parameter.ofPositive "limit" filter.limit ++
    Parameter.ofPositive "start" filter.start ++
    Parameter.ofTexts "o" (filter.options.map DisplayOption.name)

end ReviewGroups
