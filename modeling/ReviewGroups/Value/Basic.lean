/-
Module: ReviewGroups.Value.Basic
Purpose: The values that callers pass, before they are checked.
Trusted boundary: none
Main exports: Container, Value, Value.kindName, Value.ofJson, Value.entry?, Value.isTruthy
-/
import ReviewGroups.Record

namespace ReviewGroups

/-- The kinds of collection that hold items in an order; a stream gives its items one at a time, and
the views are what an object gives of its keys and of its entries. -/
inductive Container where
  | list
  | tuple
  | set
  | frozenSet
  | stream
  | keyView
  | entryView
deriving Repr, Inhabited, DecidableEq

/-- A value of any kind. -/
inductive Value where
  | null
  | bool (b : Bool)
  | int (n : Int)
  | float (x : Binary64)
  | text (s : String)
  | option (o : DisplayOption)
  | items (container : Container) (values : List Value)
  | dict (entries : List (Value × Value))
  | record (r : Record)
deriving Repr, Inhabited

/-- The word for a kind of collection in messages. -/
def Container.kindName : Container → String
  | .list => "list"
  | .tuple => "tuple"
  | .set => "set"
  | .frozenSet => "frozenset"
  | .stream => "generator"
  | .keyView => "dict_keys"
  | .entryView => "dict_items"

/-- The kinds of collection that count as sets. -/
def Container.isSetLike : Container → Bool
  | .set | .frozenSet | .keyView | .entryView => true
  | .list | .tuple | .stream => false

namespace Value

/-- The word for the kind of a value in messages. -/
def kindName : Value → String
  | .null => "NoneType"
  | .bool _ => "bool"
  | .int _ => "int"
  | .float _ => "float"
  | .text _ => "str"
  | .option _ => "ListGroupsOption"
  | .items container _ => container.kindName
  | .dict _ => "dict"
  | .record r => r.schema.name

mutual

/-- A JSON value as a value. -/
def ofJson : Json → Value
  | .null => .null
  | .bool b => .bool b
  | .int n => .int n
  | .float x => .float x
  | .text s => .text s
  | .list parts => .items .list (ofJsonItems parts)
  | .object members => .dict (ofJsonMembers members)

/-- JSON values one by one. -/
def ofJsonItems : List Json → List Value
  | [] => []
  | part :: parts => ofJson part :: ofJsonItems parts

/-- The members of a JSON object, the names as text. -/
def ofJsonMembers : List (String × Json) → List (Value × Value)
  | [] => []
  | (name, value) :: members => (.text name, ofJson value) :: ofJsonMembers members

end

/-- The value under a text key. -/
def entry? (key : String) : List (Value × Value) → Option Value
  | [] => none
  | (.text k, value) :: entries => if k = key then some value else entry? key entries
  | _ :: entries => entry? key entries

/-- Whether a value counts as yes where any value may stand: null, false, zero and what is empty
does not. -/
def isTruthy : Value → Bool
  | .null => false
  | .bool b => b
  | .int n => n != 0
  | .float x => x.toInt? != some 0
  | .text s => !s.isEmpty
  | .items .stream _ => true
  | .items _ values => !values.isEmpty
  | .dict entries => !entries.isEmpty
  | .option _ => true
  | .record _ => true

end Value

end ReviewGroups
