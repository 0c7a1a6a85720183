/-
Module: ReviewGroups.Filter.Options
Purpose: Display options as callers name them: one, several, or collections of them.
Trusted boundary: none
Main exports: DisplayOption.ofValue, Value.elements, DisplayOption.listOfValue,
  DisplayOption.listOfValues
-/
import ReviewGroups.Failure

namespace ReviewGroups

/-- The values that a value gives one after the other. -/
def Value.elements : Value → Except Misuse (List Value)
  | .text s => .ok (s.toList.map fun c => .text (String.singleton c))
  | .option o => .ok (o.name.toList.map fun c => .text (String.singleton c))
  | .items _ values => .ok values
  | .dict entries => .ok (entries.map Prod.fst)
  | .record r =>
      match r.toJson with
      | .object members =>
          .ok (members.map fun (name, value) => .items .tuple [.text name, .ofJson value])
      | _ => .ok []
  | value => .error (.notIterable value.kindName)

namespace DisplayOption

/-- The option that a value names: an option, or its name in any case. -/
def ofValue : Value → Except Misuse DisplayOption
  | .option o => .ok o
  | .text s =>
      match ofWord? s with
      | some o => .ok o
      | none => .error (.unknownOption (Text.upper s))
  | value => .error (.notAWord value.kindName)

/-- The options that values name, the first failure first. -/
def ofEach : List Value → Except Misuse (List DisplayOption)
  | [] => .ok []
  | value :: values => do
      let first ← ofValue value
      let others ← ofEach values
      pure (first :: others)

/-- The options of one argument: a text or an option is one, anything else is a collection. -/
def listOfValue (value : Value) : Except Misuse (List DisplayOption) :=
  match value with
  | .text _ | .option _ => ofEach [value]
  | _ => value.elements >>= ofEach

/-- The options of several arguments. -/
def listOfValues : List Value → Except Misuse (List DisplayOption)
  | [] => .ok []
  | value :: values => do
      let first ← listOfValue value
      let others ← listOfValues values
      pure (first ++ others)

/-- The chosen options with others added. -/
def union (chosen more : List DisplayOption) : List DisplayOption :=
  canonical (chosen ++ more)

@[simp] theorem mem_union {o : DisplayOption} {chosen more : List DisplayOption} :
    o ∈ union chosen more ↔ o ∈ chosen ∨ o ∈ more := by
  simp [union]

/-- A set of options as a value. -/
def toTuple (options : List DisplayOption) : Value :=
  .items .tuple (options.map .option)

end DisplayOption

end ReviewGroups
