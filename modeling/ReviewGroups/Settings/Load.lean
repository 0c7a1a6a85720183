/-
Module: ReviewGroups.Settings.Load
Purpose: Where settings come from, what wins, and the settings that are kept.
Trusted boundary: none
Main exports: Surroundings, Surroundings.Lookup, Surroundings.load, Surroundings.configure,
  SettingsStore, SettingsStore.get, SettingsStore.reset
-/
import ReviewGroups.Check.Record
import ReviewGroups.Filter.Options
import ReviewGroups.Settings.DotEnv
import ReviewGroups.Settings.FileText
import ReviewGroups.Text.Lower

namespace ReviewGroups

/-- What settings are read from: the environment, and the text of the variable file if there is
one. -/
structure Surroundings where
  environment : Keyed String
  file : Option String
deriving Repr, Inhabited, DecidableEq

namespace Surroundings

/-- Set a variable of the environment, or remove it. -/
def setVariable (surroundings : Surroundings) (name : String) (value : Option String) :
    Surroundings :=
  match value with
  | some value =>
      { surroundings with environment := Keyed.insert name value surroundings.environment }
  | none =>
      { surroundings with
        environment := surroundings.environment.filter fun entry => entry.1 != name }

/-- How settings are looked up: what the names of variables start with, whether names count as they
are written, whether an empty variable is none, the text that stands for null if there is one,
whether the variable file is read, and the label of its character set. -/
structure Lookup where
  start : String
  caseMatters : Bool
  emptyIsNone : Bool
  nullWord : Option String
  readsFile : Bool
  label : Value
deriving Repr, Inhabited

namespace Lookup

/-- Names start with `GERRIT_` in any case, an empty variable is an empty text, no text stands for
null, and the file is read as UTF-8. -/
def usual : Lookup :=
  { start := "GERRIT_"
    caseMatters := false
    emptyIsNone := false
    nullWord := none
    readsFile := true
    label := .null }

/-- A name as it is compared: as it is written, or in lower case. -/
def key (lookup : Lookup) (name : String) : String :=
  if lookup.caseMatters then name else Text.lower name

/-- The text of a variable as a value. -/
def valueOf (lookup : Lookup) (text : String) : Value :=
  if lookup.nullWord = some text then .null else .text text

/-- What variables say about a field; of names that are compared as the same, the last one
counts. -/
def find? (lookup : Lookup) (bindings : Keyed (Option String)) (field : String) : Option Value :=
  let counted :=
    if lookup.emptyIsNone then bindings.filter fun entry => entry.2 != some "" else bindings
  let byKey := Keyed.ofPairs (counted.map fun (name, text) => (lookup.key name, text))
  (Keyed.get? (lookup.key (lookup.start ++ field)) byKey).join.map lookup.valueOf

/-- The name of the variable file, as a path from the working directory. -/
def fileName : List Char := ".env".toList

/-- A path leads to the variable file: steps that stay where they are do not count. -/
def isFilePath (path : String) : Bool :=
  path.toList.head? != some '/' &&
    (Text.splitAt '/' path.toList).filter (fun step => !step.isEmpty && step != ['.']) == [fileName]

/-- A path is text. -/
def readPath : Value → Except Failure String
  | .text path => .ok path
  | .option o => .ok o.name
  | value => .error (.misuse (.notAPath value.kindName))

/-- The variable file is among the files that are named: by one path, by several, or by null for
none. -/
def namesFile : Value → Except Failure Bool
  | .null => .ok false
  | .text path => .ok (isFilePath path)
  | .option o => .ok (isFilePath o.name)
  | value =>
      match value.elements with
      | .ok paths => (paths.mapM readPath).map fun paths => paths.any isFilePath
      | .error misuse => .error (.misuse misuse)

/-- The value of an argument that changes the lookup; null changes nothing. -/
def change? (arguments : Keyed Value) (name : String) : Option Value :=
  (Keyed.get? name arguments).filter fun value => match value with | .null => false | _ => true

/-- The lookup that arguments ask for, by names that start with an underscore. -/
def ofArguments (arguments : Keyed Value) : Except Failure Lookup := do
  let readsFile ←
    match Keyed.get? "_env_file" arguments with
    | none => pure usual.readsFile
    | some files => namesFile files
  pure
    { start := ((change? arguments "_env_prefix").map Value.toText).getD usual.start
      caseMatters :=
        ((change? arguments "_case_sensitive").map Value.isTruthy).getD usual.caseMatters
      emptyIsNone :=
        ((change? arguments "_env_ignore_empty").map Value.isTruthy).getD usual.emptyIsNone
      nullWord := (change? arguments "_env_parse_none_str").bind Value.text?
      readsFile := readsFile
      label := (Keyed.get? "_env_file_encoding" arguments).getD usual.label }

end Lookup

/-- The variables of the file, if it is read and there. -/
def fileVariables (surroundings : Surroundings) (lookup : Lookup) :
    Except Misuse (Keyed (Option String)) :=
  match surroundings.file, lookup.readsFile with
  | some text, true =>
      (FileText.readAs lookup.label text).map (DotEnv.values surroundings.environment)
  | _, _ => .ok []

/-- What the environment says about a field, or else what the variables of the file say. -/
def lookup? (surroundings : Surroundings) (lookup : Lookup) (bindings : Keyed (Option String))
    (field : String) : Option Value :=
  lookup.find? (surroundings.environment.map fun (name, text) => (name, some text)) field <|>
    lookup.find? bindings field

/-- The fields of settings. -/
def fields : List String := ["url", "username", "password", "timeout"]

/-- The value of a field: an argument counts before the environment, and that before the file.  Of
arguments with names that are compared as the same, the first one counts. -/
def fieldValue? (surroundings : Surroundings) (lookup : Lookup)
    (bindings : Keyed (Option String)) (arguments : Keyed Value) (field : String) :
    Option Value :=
  Keyed.get? field (arguments.map fun (name, value) => (lookup.key name, value)) <|>
    surroundings.lookup? lookup bindings field

/-- The settings that arguments and surroundings ask for.  Unknown names of arguments are passed
over. -/
def load (surroundings : Surroundings) (arguments : Keyed Value) : Except Failure Settings := do
  let lookup ← Lookup.ofArguments arguments
  let bindings ← Failure.ofMisuse (surroundings.fileVariables lookup)
  let entries :=
    fields.filterMap fun field =>
      (surroundings.fieldValue? lookup bindings arguments field).map fun value =>
        (Value.text field, value)
  Failure.ofCheck .settings (Settings.check (.dict entries))

/-- The arguments that have a place of their own, and come before all others. -/
def leading : List String := ["url", "username", "password"]

/-- The settings that arguments ask for, where a null argument is none. -/
def configure (surroundings : Surroundings) (arguments : Keyed Value) : Except Failure Settings :=
  let (first, others) := arguments.partition fun entry => entry.1 ∈ leading
  surroundings.load
    ((first ++ others).filter fun (_, value) => match value with | .null => false | _ => true)

end Surroundings

/-- Surroundings, and the settings that were read from them last, with the number of that
reading. -/
structure SettingsStore where
  surroundings : Surroundings
  kept : Option (Nat × Settings)
  readings : Nat
deriving Repr, Inhabited

namespace SettingsStore

/-- Nothing is set and nothing was read. -/
def fresh : SettingsStore :=
  { surroundings := ⟨[], none⟩
    kept := none
    readings := 0 }

/-- The settings that are kept, or those of the surroundings, which are then kept.  A reading that
fails keeps nothing. -/
def get (store : SettingsStore) : Except Failure (Nat × Settings) × SettingsStore :=
  match store.kept with
  | some kept => (.ok kept, store)
  | none =>
      match store.surroundings.load [] with
      | .ok settings =>
          let kept := (store.readings, settings)
          (.ok kept, { store with kept := some kept, readings := store.readings + 1 })
      | .error failure => (.error failure, store)

/-- Forget the settings that are kept. -/
def reset (store : SettingsStore) : SettingsStore :=
  { store with kept := none }

end SettingsStore

end ReviewGroups
