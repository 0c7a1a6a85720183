/-
Module: ReviewGroups.Rest.Payload
Purpose: The shapes that answers of the server must have.
Trusted boundary: none
Main exports: Payload.group, Payload.identifiedGroup, Payload.groups, Payload.groupMap,
  Payload.accounts, Payload.options, Payload.additions
-/
import ReviewGroups.Check.Record
import ReviewGroups.Failure

namespace ReviewGroups.Payload

/-- The failure for an answer of another shape. -/
def unexpected (expected : String) (data : Json) : Failure :=
  .ofError (.malformed s!"Expected {expected}, got {data.kindName}")

/-- The failure for a part of an answer with issues. -/
def flawed (part : String) (schema : Schema) (issues : List Issue) : Failure :=
  .ofError
    { ApiError.malformed s!"Invalid {part} object: {schema.name}" with
      flaws := some (schema, issues) }

/-- A group object. -/
def group (data : Json) : Except Failure Group :=
  match data with
  | .object _ =>
      match Group.check (.ofJson data) with
      | .valid group => .ok group
      | .invalid issues => .error (flawed "group" .group issues)
  | _ => .error (unexpected "a group object" data)

/-- A group object with an identifier. -/
def identifiedGroup (data : Json) : Except Failure Group := do
  let group ← group data
  if (group.id.getD "").isEmpty then throw (.ofError (.malformed "Group object has no id"))
  else pure group

/-- Group objects one by one, the first failure first. -/
def groupList : List Json → Except Failure (List Group)
  | [] => .ok []
  | item :: items => do
      let first ← group item
      let others ← groupList items
      pure (first :: others)

/-- A list of group objects. -/
def groups (data : Json) : Except Failure (List Group) :=
  match data with
  | .list items => groupList items
  | _ => .error (unexpected "a list of groups" data)

/-- Group objects under names one by one, the first failure first. -/
def groupMembers : Keyed Json → Except Failure (Keyed Group)
  | [] => .ok []
  | (name, value) :: members => do
      let first ← group value
      let others ← groupMembers members
      pure ((name, first) :: others)

/-- An object of group objects. -/
def groupMap (data : Json) : Except Failure (Keyed Group) :=
  match data with
  | .object members => groupMembers members
  | _ => .error (unexpected "a map of groups" data)

/-- An account object. -/
def account (data : Json) : Except Failure Account :=
  match Account.check (.ofJson data) with
  | .valid account => .ok account
  | .invalid issues => .error (flawed "account" .account issues)

/-- Account objects one by one, the first failure first. -/
def accountList : List Json → Except Failure (List Account)
  | [] => .ok []
  | item :: items => do
      let first ← account item
      let others ← accountList items
      pure (first :: others)

/-- A list of account objects. -/
def accounts (data : Json) : Except Failure (List Account) :=
  match data with
  | .list items => accountList items
  | _ => .error (unexpected "a list of accounts" data)

/-- Group options. -/
def options (data : Json) : Except Failure GroupOptions :=
  match data with
  | .object _ => Failure.ofCheck .groupOptions (GroupOptions.check (.ofJson data))
  | _ => .error (unexpected "group options" data)

/-- What was added: an answer that stands for nothing is an empty list. -/
def additions (data : Json) : Json :=
  if data.isNothing then .list [] else data

end ReviewGroups.Payload
