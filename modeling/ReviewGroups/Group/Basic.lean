/-
Module: ReviewGroups.Group.Basic
Purpose: Groups, accounts and group options as the server describes them.
Trusted boundary: none
Main exports: Account, GroupOptions, Group, Group.toJson, Json.ofOption
-/
import ReviewGroups.Json.Basic

namespace ReviewGroups

/-- The value, or null for none. -/
def Json.ofOption {α : Type} (toJson : α → Json) : Option α → Json
  | none => .null
  | some value => toJson value

/-- An account, as a member of a group. -/
structure Account where
  accountId : Option Int
  name : Option String
  email : Option String
  username : Option String
deriving Repr, Inhabited, DecidableEq

/-- The options of a group. -/
structure GroupOptions where
  visibleToAll : Option Bool
deriving Repr, Inhabited, DecidableEq

/-- A group.  Which parts are present depends on the call that answered it. -/
structure Group where
  id : Option String
  name : Option String
  url : Option String
  options : Option GroupOptions
  description : Option String
  groupId : Option Int
  owner : Option String
  ownerId : Option String
  createdOn : Option String
  /-- Set on the last group when a limit cut the answer short. -/
  moreGroups : Option Bool
  members : Option (List Account)
  includes : Option (List Group)
deriving Repr, Inhabited

/-- Every field of an account by name, null where nothing is set. -/
def Account.toJson (account : Account) : Json :=
  .object
    [("account_id", .ofOption .int account.accountId),
      ("name", .ofOption .text account.name),
      ("email", .ofOption .text account.email),
      ("username", .ofOption .text account.username)]

/-- Every field of group options by name, null where nothing is set. -/
def GroupOptions.toJson (options : GroupOptions) : Json :=
  .object [("visible_to_all", .ofOption .bool options.visibleToAll)]

namespace Group

/-- A group of which nothing is known. -/
def blank : Group :=
  { id := none
    name := none
    url := none
    options := none
    description := none
    groupId := none
    owner := none
    ownerId := none
    createdOn := none
    moreGroups := none
    members := none
    includes := none }

mutual

/-- Every field of a group by name, null where nothing is set. -/
def toJson : Group → Json
  | ⟨id, name, url, options, description, groupId, owner, ownerId, createdOn, moreGroups, members,
      includes⟩ =>
      .object
        [("id", .ofOption .text id),
          ("name", .ofOption .text name),
          ("url", .ofOption .text url),
          ("options", .ofOption GroupOptions.toJson options),
          ("description", .ofOption .text description),
          ("group_id", .ofOption .int groupId),
          ("owner", .ofOption .text owner),
          ("owner_id", .ofOption .text ownerId),
          ("created_on", .ofOption .text createdOn),
          ("more_groups", .ofOption .bool moreGroups),
          ("members", .ofOption (fun accounts => .list (accounts.map Account.toJson)) members),
          ("includes", includesToJson includes)]

/-- The included groups, if they are known. -/
def includesToJson : Option (List Group) → Json
  | none => .null
  | some groups => .list (listToJson groups)

/-- Groups one by one. -/
def listToJson : List Group → List Json
  | [] => []
  | group :: groups => toJson group :: listToJson groups

end

/-- Groups in a list are written one by one. -/
theorem listToJson_eq_map (groups : List Group) : listToJson groups = groups.map toJson := by
  induction groups with
  | nil => rfl
  | cons group groups inductionHypothesis => simp [listToJson, inductionHypothesis]

end Group

end ReviewGroups
