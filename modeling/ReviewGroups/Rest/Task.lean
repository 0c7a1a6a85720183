/-
Module: ReviewGroups.Rest.Task
Purpose: What the server is asked to do: method, path, parameters and body of each task.
Trusted boundary: none
Main exports: encodeIdentifier, groupPath, Method, Task, Task.method, Task.path, Task.parameters,
  Task.body, Task.ofCall, Task.ofCreation, Task.ofIdentifier, readGroupPath
-/
import ReviewGroups.Check.Record
import ReviewGroups.Filter.Parameters
import ReviewGroups.Transport
import ReviewGroups.Url.Percent
import ReviewGroups.Value.Key

namespace ReviewGroups.Rest

/-- An identifier as one segment of a path. -/
def encodeIdentifier (id : String) : String :=
  String.ofList (Url.Percent.encode Url.Percent.isUnreserved id.toList)

/-- The path of a group, and of a resource below it. -/
def groupPath (id : String) (parts : List String) : String :=
  let path := "/groups/" ++ encodeIdentifier id
  if parts.isEmpty then path else path ++ "/" ++ String.intercalate "/" parts

/-- The parts of a path below a group: texts, counted from zero. -/
def readParts (place : Nat) : List Value → Except Misuse (List String)
  | [] => .ok []
  | value :: values =>
      match value.text? with
      | some part => (readParts (place + 1) values).map (part :: ·)
      | none => .error (.partNotText place value.kindName)

/-- The path of all groups. -/
def collectionPath : String := "/groups/"

/-- The methods of requests. -/
inductive Method where
  | get
  | put
  | post
  | delete
deriving Repr, Inhabited, DecidableEq

/-- The name of a method. -/
def Method.name : Method → String
  | .get => "GET"
  | .put => "PUT"
  | .post => "POST"
  | .delete => "DELETE"

/-- What the server is asked to do.  An identifier that is resolved comes with the form in which
messages show it. -/
inductive Task where
  | listGroups (filter : ListFilter)
  | queryGroups (filter : QueryFilter)
  | resolve (id shown : String)
  | create (name : String) (input : Value)
  | getDetail (id : String)
  | getName (id : String)
  | putName (id name : String)
  | getDescription (id : String)
  | putDescription (id : String) (description : String)
  | deleteDescription (id : String)
  | getOwner (id : String)
  | putOwner (id owner : String)
  | getOptions (id : String)
  | putOptions (id : String) (options : Value)
  | listMembers (id : String) (recursive : Bool)
  | addMembers (id : String) (members : List String)
  | removeMembers (id : String) (members : List String)
  | listIncludedGroups (id : String)
  | addIncludedGroups (id : String) (groups : List String)
  | removeIncludedGroups (id : String) (groups : List String)
  | index (id : String)
deriving Repr, Inhabited

namespace Task

/-- The method of a task. -/
def method : Task → Method
  | .create .. | .putName .. | .putDescription .. | .putOwner .. | .putOptions .. => .put
  | .deleteDescription _ => .delete
  | .addMembers .. | .removeMembers .. | .addIncludedGroups .. | .removeIncludedGroups ..
  | .index _ => .post
  | _ => .get

/-- The identifier of the group that a task concerns, if it concerns a single one. -/
def identifier? : Task → Option String
  | .listGroups _ | .queryGroups _ => none
  | .create name _ => some name
  | .resolve id _ | .getDetail id | .getName id | .putName id _ | .getDescription id
  | .putDescription id _ | .deleteDescription id | .getOwner id | .putOwner id _ | .getOptions id
  | .putOptions id _ | .listMembers id _ | .addMembers id _ | .removeMembers id _
  | .listIncludedGroups id | .addIncludedGroups id _ | .removeIncludedGroups id _ | .index id =>
      some id

/-- The resource below the group that a task concerns. -/
def parts : Task → List String
  | .listGroups _ | .queryGroups _ | .resolve .. | .create .. => []
  | .getDetail _ => ["detail"]
  | .getName _ | .putName .. => ["name"]
  | .getDescription _ | .putDescription .. | .deleteDescription _ => ["description"]
  | .getOwner _ | .putOwner .. => ["owner"]
  | .getOptions _ | .putOptions .. => ["options"]
  | .listMembers .. => ["members/"]
  | .addMembers .. => ["members.add"]
  | .removeMembers .. => ["members.delete"]
  | .listIncludedGroups _ => ["groups/"]
  | .addIncludedGroups .. => ["groups.add"]
  | .removeIncludedGroups .. => ["groups.delete"]
  | .index _ => ["index"]

/-- The path of a task. -/
def path (task : Task) : String :=
  match task.identifier? with
  | none => collectionPath
  | some id => groupPath id task.parts

/-- The query parameters of a task. -/
def parameters : Task → Value
  | .listGroups filter => .items .list (filter.parameters.map Parameter.toValue)
  | .queryGroups filter => .items .list (filter.parameters.map Parameter.toValue)
  | .listMembers _ true => .dict [(.text "recursive", .text "true")]
  | _ => .null

/-- The body of a task. -/
def body : Task → Value
  | .create _ input => input
  | .putName _ name => .record (.nameInput ⟨name⟩)
  | .putDescription _ description => .record (.descriptionInput ⟨some description⟩)
  | .putOwner _ owner => .record (.ownerInput ⟨owner⟩)
  | .putOptions _ options => options
  | .addMembers _ members | .removeMembers _ members => .record (.membersInput ⟨members⟩)
  | .addIncludedGroups _ groups | .removeIncludedGroups _ groups => .record (.groupsInput ⟨groups⟩)
  | _ => .null

/-- An identifier must be text. -/
def readIdentifier : Value → Except Failure String
  | .text s => .ok s
  | .option o => .ok o.name
  | _ => .error (.misuse .identifierNotText)

/-- The single field of an input, checked. -/
def readField {α : Type} (schema : Schema) (check : Value → Check α) (name : String)
    (value : Value) : Except Failure α :=
  Failure.ofCheck schema (check (.dict [(.text name, value)]))

/-- The texts that a collection gives one after the other. -/
def readTexts {α : Type} (schema : Schema) (check : Value → Check α) (name : String)
    (value : Value) : Except Failure α :=
  match value.elements with
  | .error misuse => .error (.misuse misuse)
  | .ok values => readField schema check name (.items .list values)

/-- A new description; whatever does not count as yes is none. -/
def readDescription (value : Value) : Except Failure (Option String) :=
  if value.isTruthy then
    (readField .descriptionInput DescriptionInput.check "description" value).map
      DescriptionInput.description
  else .ok none

/-- The task that a call asks for, once its arguments are in order. -/
def ofCall : Call → Except Failure Task
  | .getDetail id => return .getDetail (← readIdentifier id)
  | .getName id => return .getName (← readIdentifier id)
  | .putName id name => do
      let id ← readIdentifier id
      let input ← readField .nameInput NameInput.check "name" name
      return .putName id input.name
  | .getDescription id => return .getDescription (← readIdentifier id)
  | .putDescription id description => do
      let id ← readIdentifier id
      match ← readDescription description with
      | some description => return .putDescription id description
      | none => return .deleteDescription id
  | .getOwner id => return .getOwner (← readIdentifier id)
  | .putOwner id owner => do
      let id ← readIdentifier id
      let input ← readField .ownerInput OwnerInput.check "owner" owner
      return .putOwner id input.owner
  | .getOptions id => return .getOptions (← readIdentifier id)
  | .putOptions id options => return .putOptions (← readIdentifier id) options
  | .listMembers id recursive => return .listMembers (← readIdentifier id) recursive.isTruthy
  | .addMembers id members => do
      let id ← readIdentifier id
      let input ← readTexts .membersInput MembersInput.check "members" members
      return .addMembers id input.members
  | .removeMembers id members => do
      let id ← readIdentifier id
      let input ← readTexts .membersInput MembersInput.check "members" members
      return .removeMembers id input.members
  | .listIncludedGroups id => return .listIncludedGroups (← readIdentifier id)
  | .addIncludedGroups id groups => do
      let id ← readIdentifier id
      let input ← readTexts .groupsInput GroupsInput.check "groups" groups
      return .addIncludedGroups id input.groups
  | .removeIncludedGroups id groups => do
      let id ← readIdentifier id
      let input ← readTexts .groupsInput GroupsInput.check "groups" groups
      return .removeIncludedGroups id input.groups
  | .index id => return .index (← readIdentifier id)

/-- The name of what a group is created from, if that has one; a record can have one that is not
set. -/
def creationName? : Value → Option (Option String)
  | .record (.groupInput input) => some input.name
  | .record (.nameInput input) => some (some input.name)
  | .record (.group group) => some group.name
  | .record (.account account) => some account.name
  | .option o => some (some o.name)
  | _ => none

/-- The creation of a group, which must have a name. -/
def ofCreation (input : Value) : Except Failure Task :=
  match creationName? input with
  | none => .error (.misuse (.noPart input.kindName "name"))
  | some name =>
      if (name.getD "").isEmpty then
        .error (.ofError (.withMessage .badRequest "GroupInput must specify name"))
      else .ok (.create (name.getD "") input)

/-- The search for the group that an identifier denotes. -/
def ofIdentifier (identifier : Value) : Except Failure Task :=
  (readIdentifier identifier).map fun id => .resolve id identifier.toText

end Task

/-- The path of a group that a caller asks for by an identifier and parts. -/
def readGroupPath (identifier : Value) (parts : List Value) : Except Failure String := do
  let id ← Task.readIdentifier identifier
  match readParts 0 parts with
  | .ok parts => pure (groupPath id parts)
  | .error misuse => throw (.misuse misuse)

end ReviewGroups.Rest
