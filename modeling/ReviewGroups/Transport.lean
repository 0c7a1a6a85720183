/-
Module: ReviewGroups.Transport
Purpose: The calls that handles, builders and the facade make, whatever carries them out.
Trusted boundary: none
Main exports: Call, Call.name, Answer, Transport, Transport.groupContract, Transport.groupsContract,
  Transport.meets
-/
import ReviewGroups.Filter.QueryRequest

namespace ReviewGroups

/-- A call that concerns a single group, its arguments as the caller gave them. -/
inductive Call where
  | getDetail (id : Value)
  | getName (id : Value)
  | putName (id name : Value)
  | getDescription (id : Value)
  | putDescription (id description : Value)
  | getOwner (id : Value)
  | putOwner (id owner : Value)
  | getOptions (id : Value)
  | putOptions (id options : Value)
  | listMembers (id recursive : Value)
  | addMembers (id members : Value)
  | removeMembers (id members : Value)
  | listIncludedGroups (id : Value)
  | addIncludedGroups (id groups : Value)
  | removeIncludedGroups (id groups : Value)
  | index (id : Value)
deriving Repr, Inhabited

/-- The name of a call. -/
def Call.name : Call → String
  | .getDetail _ => "get_detail"
  | .getName _ => "get_name"
  | .putName .. => "put_name"
  | .getDescription _ => "get_description"
  | .putDescription .. => "put_description"
  | .getOwner _ => "get_owner"
  | .putOwner .. => "put_owner"
  | .getOptions _ => "get_options"
  | .putOptions .. => "put_options"
  | .listMembers .. => "list_members"
  | .addMembers .. => "add_members"
  | .removeMembers .. => "remove_members"
  | .listIncludedGroups _ => "list_included_groups"
  | .addIncludedGroups .. => "add_included_groups"
  | .removeIncludedGroups .. => "remove_included_groups"
  | .index _ => "index"

/-- What a call answers. -/
inductive Answer where
  | group (group : Group)
  | groups (groups : List Group)
  | accounts (accounts : List Account)
  | options (options : GroupOptions)
  | json (json : Json)
  | nothing
deriving Repr, Inhabited

/-- What carries out calls. -/
structure Transport (m : Type → Type) where
  resolve : Value → m Group
  create : Value → m Group
  listing : ListSource m
  query : QueryFilter → m (List Group)
  perform : Call → m Answer

namespace Transport

/-- The calls that a handle on a group depends on. -/
def groupContract : List String :=
  ["get_detail", "put_name", "put_description", "get_owner", "put_owner", "get_options",
    "put_options", "list_members", "add_members", "remove_members", "list_included_groups",
    "add_included_groups", "remove_included_groups", "index"]

/-- The calls that the facade and its builders depend on, those of handles included. -/
def groupsContract : List String :=
  groupContract ++ ["fetch_groups_as_map", "fetch_groups_as_list", "resolve_group", "create_group"]

/-- Every call of a contract is among those that are provided. -/
def meets (contract provided : List String) : Bool :=
  contract.all (· ∈ provided)

end Transport

end ReviewGroups
