/-
Module: ReviewGroups.Value.Body
Purpose: Values as the JSON bodies of requests.
Trusted boundary: none
Main exports: Value.keyText, Value.toJson, Value.requestBody
-/
import ReviewGroups.Failure
import ReviewGroups.Json.Writer

namespace ReviewGroups.Value

/-- The name that a key of an object is written as. -/
def keyText : Value → Except Misuse String
  | .text s => .ok s
  | .option o => .ok o.name
  | .null => .ok "null"
  | .bool b => .ok (if b then "true" else "false")
  | .int n => if Text.isShort n then .ok (toString n) else .error .wholeUnwritable
  | .float x => if x.isFinite then .ok x.toText else .error .notFinite
  | value => .error (.keyNotText value.kindName)

mutual

/-- A value as JSON.  Only finite numbers of few enough digits, texts, lists, tuples and objects can
be written. -/
def toJson : Value → Except Misuse Json
  | .null => .ok .null
  | .bool b => .ok (.bool b)
  | .int n => if Text.isShort n then .ok (.int n) else .error .wholeUnwritable
  | .float x => if x.isFinite then .ok (.float x) else .error .notFinite
  | .text s => .ok (.text s)
  | .option o => .ok (.text o.name)
  | .items .list values => (toJsonItems values).map .list
  | .items .tuple values => (toJsonItems values).map .list
  | .items container _ => .error (.notSerializable container.kindName)
  | .dict entries => (toJsonMembers entries).map .object
  | .record r => .error (.notSerializable r.schema.name)

/-- Values one by one. -/
def toJsonItems : List Value → Except Misuse (List Json)
  | [] => .ok []
  | value :: values => do
      let first ← toJson value
      let others ← toJsonItems values
      pure (first :: others)

/-- Entries one by one. -/
def toJsonMembers : List (Value × Value) → Except Misuse (List (String × Json))
  | [] => .ok []
  | (key, value) :: entries => do
      let name ← keyText key
      let first ← toJson value
      let others ← toJsonMembers entries
      pure ((name, first) :: others)

end

/-- The body that is sent for a value: none for null, and a record without what is not set. -/
def requestBody : Value → Except Misuse (Option Json)
  | .null => .ok none
  | .record r =>
      if !r.body.isFinite then .error .notFinite
      else if !r.body.isWritable then .error .wholeUnwritable
      else .ok (some r.body)
  | value => (toJson value).map some

end ReviewGroups.Value
