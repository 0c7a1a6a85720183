/-
Module: ReviewGroups.Json.Basic
Purpose: JSON values, with the members of an object in order.
Trusted boundary: none
Main exports: Json, Json.member?, Json.kindName, Json.isNothing
-/
import ReviewGroups.Keyed
import ReviewGroups.Number.Binary64

namespace ReviewGroups

/-- A JSON value.  Whole numbers are exact; other numbers are double precision, the infinities and
not-a-number included. -/
inductive Json where
  | null
  | bool (b : Bool)
  | int (n : Int)
  | float (x : Binary64)
  | text (s : String)
  | list (items : List Json)
  | object (members : List (String × Json))
deriving Repr, Inhabited

namespace Json

/-- The value under a key of an object. -/
def member? (key : String) : Json → Option Json
  | .object members => Keyed.get? key members
  | _ => none

/-- The word for the kind of a value in messages. -/
def kindName : Json → String
  | .null => "NoneType"
  | .bool _ => "bool"
  | .int _ => "int"
  | .float _ => "float"
  | .text _ => "str"
  | .list _ => "list"
  | .object _ => "dict"

/-- The values that stand for nothing: null, false, zero, and the empty text, list and object. -/
def isNothing : Json → Bool
  | .null => true
  | .bool b => !b
  | .int n => n == 0
  | .float x => x.toInt? == some 0
  | .text s => s.isEmpty
  | .list items => items.isEmpty
  | .object members => members.isEmpty

end Json

end ReviewGroups
