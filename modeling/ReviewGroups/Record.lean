/-
Module: ReviewGroups.Record
Purpose: Every record type under one roof, with its name and its JSON form.
Trusted boundary: none
Main exports: Schema, Schema.name, Record, Record.schema, Record.toJson, Json.omitNulls, Record.body
-/
import ReviewGroups.Filter.Basic
import ReviewGroups.Settings.Basic

namespace ReviewGroups

/-- The kinds of record that values are checked against. -/
inductive Schema where
  | account
  | groupOptions
  | groupOptionsInput
  | group
  | groupInput
  | nameInput
  | descriptionInput
  | ownerInput
  | membersInput
  | groupsInput
  | listFilter
  | queryFilter
  | settings
deriving Repr, Inhabited, DecidableEq

namespace Schema

/-- Every schema. -/
def all : List Schema :=
  [.account, .groupOptions, .groupOptionsInput, .group, .groupInput, .nameInput, .descriptionInput,
    .ownerInput, .membersInput, .groupsInput, .listFilter, .queryFilter, .settings]

/-- The name of a schema in messages. -/
def name : Schema → String
  | .account => "AccountInfo"
  | .groupOptions => "GroupOptionsInfo"
  | .groupOptionsInput => "GroupOptionsInput"
  | .group => "GroupInfo"
  | .groupInput => "GroupInput"
  | .nameInput => "NameInput"
  | .descriptionInput => "DescriptionInput"
  | .ownerInput => "OwnerInput"
  | .membersInput => "MembersInput"
  | .groupsInput => "GroupsInput"
  | .listFilter => "ListFilterState"
  | .queryFilter => "QueryFilterState"
  | .settings => "GerritSettings"

/-- The schema with a name. -/
def ofName? (name : String) : Option Schema :=
  all.find? fun schema => schema.name = name

end Schema

/-- A record of any schema. -/
inductive Record where
  | account (entity : Account)
  | groupOptions (entity : GroupOptions)
  | groupOptionsInput (entity : GroupOptionsInput)
  | group (entity : Group)
  | groupInput (entity : GroupInput)
  | nameInput (entity : NameInput)
  | descriptionInput (entity : DescriptionInput)
  | ownerInput (entity : OwnerInput)
  | membersInput (entity : MembersInput)
  | groupsInput (entity : GroupsInput)
  | listFilter (entity : ListFilter)
  | queryFilter (entity : QueryFilter)
  | settings (entity : Settings)
deriving Repr, Inhabited

namespace Record

/-- The schema of a record. -/
def schema : Record → Schema
  | .account _ => .account
  | .groupOptions _ => .groupOptions
  | .groupOptionsInput _ => .groupOptionsInput
  | .group _ => .group
  | .groupInput _ => .groupInput
  | .nameInput _ => .nameInput
  | .descriptionInput _ => .descriptionInput
  | .ownerInput _ => .ownerInput
  | .membersInput _ => .membersInput
  | .groupsInput _ => .groupsInput
  | .listFilter _ => .listFilter
  | .queryFilter _ => .queryFilter
  | .settings _ => .settings

/-- Every field of a record by name, null where nothing is set. -/
def toJson : Record → Json
  | .account entity => entity.toJson
  | .groupOptions entity => entity.toJson
  | .groupOptionsInput entity => entity.toJson
  | .group entity => entity.toJson
  | .groupInput entity => entity.toJson
  | .nameInput entity => entity.toJson
  | .descriptionInput entity => entity.toJson
  | .ownerInput entity => entity.toJson
  | .membersInput entity => entity.toJson
  | .groupsInput entity => entity.toJson
  | .listFilter entity => entity.toJson
  | .queryFilter entity => entity.toJson
  | .settings entity => entity.toJson

end Record

namespace Json

mutual

/-- Leave out the members that are null, at every depth.  Empty lists and objects stay. -/
def omitNulls : Json → Json
  | .list items => .list (omitNullsInItems items)
  | .object members => .object (omitNullsInMembers members)
  | value => value

/-- Leave out null members inside the items of a list. -/
def omitNullsInItems : List Json → List Json
  | [] => []
  | item :: items => omitNulls item :: omitNullsInItems items

/-- Leave out null members of an object. -/
def omitNullsInMembers : List (String × Json) → List (String × Json)
  | [] => []
  | (_, .null) :: members => omitNullsInMembers members
  | (name, value) :: members => (name, omitNulls value) :: omitNullsInMembers members

end

end Json

/-- A record as it is stored and sent: the fields that are set, by name. -/
def Record.body (record : Record) : Json :=
  record.toJson.omitNulls

end ReviewGroups
