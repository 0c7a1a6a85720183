/-
Module: ReviewGroups.Group.Input
Purpose: What is sent to create or change a group.
Trusted boundary: none
Main exports: GroupInput, GroupOptionsInput, NameInput, DescriptionInput, OwnerInput, MembersInput,
  GroupsInput
-/
import ReviewGroups.Group.Basic

namespace ReviewGroups

/-- A group to create. -/
structure GroupInput where
  name : Option String
  uuid : Option String
  description : Option String
  visibleToAll : Option Bool
  ownerId : Option String
  members : Option (List String)
deriving Repr, Inhabited, DecidableEq

/-- New options of a group. -/
structure GroupOptionsInput where
  visibleToAll : Option Bool
deriving Repr, Inhabited, DecidableEq

/-- A new name. -/
structure NameInput where
  name : String
deriving Repr, Inhabited, DecidableEq

/-- A new description. -/
structure DescriptionInput where
  description : Option String
deriving Repr, Inhabited, DecidableEq

/-- A new owner. -/
structure OwnerInput where
  owner : String
deriving Repr, Inhabited, DecidableEq

/-- Accounts to add or to remove. -/
structure MembersInput where
  members : List String
deriving Repr, Inhabited, DecidableEq

/-- Groups to include or to exclude. -/
structure GroupsInput where
  groups : List String
deriving Repr, Inhabited, DecidableEq

/-- A list of texts. -/
def Json.ofTexts (texts : List String) : Json :=
  .list (texts.map .text)

/-- A group to create that has only a name. -/
def GroupInput.named (name : String) : GroupInput :=
  { name := some name
    uuid := none
    description := none
    visibleToAll := none
    ownerId := none
    members := none }

/-- Every field of a group to create by name. -/
def GroupInput.toJson (input : GroupInput) : Json :=
  .object
    [("name", .ofOption .text input.name),
      ("uuid", .ofOption .text input.uuid),
      ("description", .ofOption .text input.description),
      ("visible_to_all", .ofOption .bool input.visibleToAll),
      ("owner_id", .ofOption .text input.ownerId),
      ("members", .ofOption .ofTexts input.members)]

/-- Every field of new group options by name. -/
def GroupOptionsInput.toJson (input : GroupOptionsInput) : Json :=
  .object [("visible_to_all", .ofOption .bool input.visibleToAll)]

/-- The one field of a new name. -/
def NameInput.toJson (input : NameInput) : Json :=
  .object [("name", .text input.name)]

/-- The one field of a new description. -/
def DescriptionInput.toJson (input : DescriptionInput) : Json :=
  .object [("description", .ofOption .text input.description)]

/-- The one field of a new owner. -/
def OwnerInput.toJson (input : OwnerInput) : Json :=
  .object [("owner", .text input.owner)]

/-- The one field of a change of members. -/
def MembersInput.toJson (input : MembersInput) : Json :=
  .object [("members", .ofTexts input.members)]

/-- The one field of a change of included groups. -/
def GroupsInput.toJson (input : GroupsInput) : Json :=
  .object [("groups", .ofTexts input.groups)]

end ReviewGroups
