/-
Module: ReviewGroups.Filter.Basic
Purpose: The filters of a listing and of a query of groups.
Trusted boundary: none
Main exports: ListFilter, QueryFilter
-/
import ReviewGroups.Group.DisplayOption
import ReviewGroups.Group.Input

namespace ReviewGroups

/-- Which groups to list, and how. -/
structure ListFilter where
  options : List DisplayOption
  projects : List String
  groups : List String
  visibleToAll : Bool
  user : Option String
  owned : Bool
  limit : Int
  start : Int
  substring : Option String
  suggest : Option String
deriving Repr, Inhabited, DecidableEq

/-- Which groups a query asks for, and how. -/
structure QueryFilter where
  query : Option String
  limit : Int
  start : Int
  options : List DisplayOption
deriving Repr, Inhabited, DecidableEq

/-- The names of options. -/
def DisplayOption.listToJson (options : List DisplayOption) : Json :=
  .ofTexts (options.map DisplayOption.name)

/-- Every field of a list filter by name. -/
def ListFilter.toJson (filter : ListFilter) : Json :=
  .object
    [("options", DisplayOption.listToJson filter.options),
      ("projects", .ofTexts filter.projects),
      ("groups", .ofTexts filter.groups),
      ("visible_to_all", .bool filter.visibleToAll),
      ("user", .ofOption .text filter.user),
      ("owned", .bool filter.owned),
      ("limit", .int filter.limit),
      ("start", .int filter.start),
      ("substring", .ofOption .text filter.substring),
      ("suggest", .ofOption .text filter.suggest)]

/-- Every field of a query filter by name. -/
def QueryFilter.toJson (filter : QueryFilter) : Json :=
  .object
    [("query", .ofOption .text filter.query),
      ("limit", .int filter.limit),
      ("start", .int filter.start),
      ("options", DisplayOption.listToJson filter.options)]

end ReviewGroups
