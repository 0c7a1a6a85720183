/-
Module: ReviewGroups.Value.Key
Purpose: Values as keys: which are the same, which cannot be keys, and collections without repeats.
Trusted boundary: none
Main exports: Value.isSame, Value.readKey, Value.insertKey, Value.dictOf, Value.setOf, Value.item
-/
import ReviewGroups.Failure

namespace ReviewGroups

namespace Value

/-- The whole number that a truth value or a number stands for. -/
def whole? : Value → Option Int
  | .bool b => some (if b then 1 else 0)
  | .int n => some n
  | .float x => x.toInt?
  | _ => none

/-- The text that a text or an option is. -/
def text? : Value → Option String
  | .text s => some s
  | .option o => some o.name
  | _ => none

mutual

/-- Two values are the same as keys: numbers and truth values by amount, an option as its name,
tuples item by item, and sets whatever the order.  What cannot be a key is the same as nothing. -/
def isSame (one other : Value) : Bool :=
  match one, other with
  | .null, .null => true
  | .items .tuple values, .items .tuple others => areSame values others
  | .items .frozenSet values, .items .frozenSet others =>
      values.length == others.length && allOccur values others
  | .record (.listFilter entity), .record (.listFilter other) => entity == other
  | .record (.queryFilter entity), .record (.queryFilter other) => entity == other
  | .float x, .float y =>
      x.decode != .notANumber && (x == y || (x.toInt?.isSome && x.toInt? == y.toInt?))
  | one, other =>
      (one.whole?.isSome && one.whole? == other.whole?) ||
        (one.text?.isSome && one.text? == other.text?)
termination_by sizeOf one + sizeOf other

/-- Values are the same one by one. -/
def areSame (values others : List Value) : Bool :=
  match values, others with
  | [], [] => true
  | one :: values, other :: others => isSame one other && areSame values others
  | _, _ => false
termination_by sizeOf values + sizeOf others

/-- Every one of some values is the same as one of others. -/
def allOccur (values others : List Value) : Bool :=
  match values with
  | [] => true
  | one :: values => occurs one others && allOccur values others
termination_by sizeOf values + sizeOf others

/-- A value is the same as one of others. -/
def occurs (one : Value) (others : List Value) : Bool :=
  match others with
  | [] => false
  | other :: others => isSame one other || occurs one others
termination_by sizeOf one + sizeOf others

end

mutual

/-- The kind of the part that keeps a value from being a key, if there is one. -/
def keyFlaw? : Value → Option String
  | .items .tuple values => keyFlawOf? values
  | .items .frozenSet _ | .items .stream _ => none
  | .items container _ => some container.kindName
  | .dict _ => some "dict"
  | .record (.listFilter _) => none
  | .record (.queryFilter _) => none
  | .record r => some r.schema.name
  | _ => none

/-- The first flaw of several values. -/
def keyFlawOf? : List Value → Option String
  | [] => none
  | value :: values =>
      match keyFlaw? value with
      | some kind => some kind
      | none => keyFlawOf? values

end

/-- A value that is to be a key. -/
def readKey (value : Value) : Except Misuse Value :=
  match value.keyFlaw? with
  | some kind => .error (.notHashable kind)
  | none => .ok value

/-- Set a key: a new one comes last, a known one keeps its place and its form, and takes the
value. -/
def insertKey (key value : Value) : List (Value × Value) → List (Value × Value)
  | [] => [(key, value)]
  | (k, v) :: rest =>
      if isSame k key then (k, value) :: rest else (k, v) :: insertKey key value rest

/-- The values under keys that pairs give, the first key that cannot be one first. -/
def dictOf (pairs : List (Value × Value)) : Except Misuse Value := do
  let entries ←
    pairs.foldlM (fun known (key, value) => do
        pure (insertKey (← key.readKey) value known)) []
  pure (.dict entries)

/-- The set of some values: each once, in the form and in the place in which it came first. -/
def setOf (container : Container) (values : List Value) : Except Misuse Value := do
  let members ←
    values.foldlM (fun known value => do
        let key ← value.readKey
        pure (if occurs key known then known else known ++ [key])) []
  pure (.items container members)

/-- The character of a text at a place. -/
def characterAt (s : String) (place : Nat) : Except Misuse Value :=
  match s.toList[place]? with
  | some c => .ok (.text (String.singleton c))
  | none => .error (.beyondEnd "string")

/-- The item of a value at a place, counted from zero. -/
def item (value : Value) (place : Nat) : Except Misuse Value :=
  match value with
  | .items .list values => (values[place]?.map .ok).getD (.error (.beyondEnd "list"))
  | .items .tuple values => (values[place]?.map .ok).getD (.error (.beyondEnd "tuple"))
  | .text s => characterAt s place
  | .option o => characterAt o.name place
  | .dict entries =>
      match entries.find? fun entry => isSame entry.1 (.int place) with
      | some entry => .ok entry.2
      | none => .error (.keyMissing place)
  | value => .error (.withoutItems value.kindName)

end Value

end ReviewGroups
