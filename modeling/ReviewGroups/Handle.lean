/-
Module: ReviewGroups.Handle
Purpose: Handles on single groups: a snapshot that stays, and calls that go to the server.
Trusted boundary: none
Main exports: Handle, Handle.ofGroup, Handle.display, Handle.Operation, Handle.call, Handle.run
-/
import ReviewGroups.Transport

namespace ReviewGroups

/-- A handle on a group: the group as it was read, and its identifier. -/
structure Handle where
  group : Group
  id : String
  known : group.id = some id
  nonempty : id ≠ ""

namespace Handle

/-- A handle on a group that has an identifier. -/
def ofGroup (group : Group) : Except Failure Handle :=
  match known : group.id with
  | none => .error (.misuse .handleWithoutIdentifier)
  | some id =>
      if nonempty : id = "" then .error (.misuse .handleWithoutIdentifier)
      else .ok ⟨group, id, known, nonempty⟩

/-- The name of the group when it was read. -/
def name (handle : Handle) : Option String := handle.group.name

/-- The description of the group when it was read. -/
def description (handle : Handle) : Option String := handle.group.description

/-- A handle as text: the identifier and the name of its group. -/
def display (handle : Handle) : String :=
  s!"GroupApi(id={Text.quoted handle.id}, name={Text.quotedOrNothing handle.name})"

/-- What a handle sends to the server. -/
inductive Operation where
  | detail
  | rename (name : Value)
  | setDescription (description : Value)
  | owner
  | setOwner (owner : Value)
  | options
  | setOptions (options : Value)
  | members (recursive : Value)
  | addMembers (members : List Value)
  | removeMembers (members : List Value)
  | includedGroups
  | addGroups (groups : List Value)
  | removeGroups (groups : List Value)
  | index
deriving Repr, Inhabited

/-- The call that an operation makes: it always concerns the identifier of the snapshot. -/
def call (handle : Handle) (operation : Operation) : Call :=
  let id := Value.text handle.id
  match operation with
  | .detail => .getDetail id
  | .rename name => .putName id name
  | .setDescription description => .putDescription id description
  | .owner => .getOwner id
  | .setOwner owner => .putOwner id owner
  | .options => .getOptions id
  | .setOptions options => .putOptions id options
  | .members recursive => .listMembers id recursive
  | .addMembers members => .addMembers id (.items .tuple members)
  | .removeMembers members => .removeMembers id (.items .tuple members)
  | .includedGroups => .listIncludedGroups id
  | .addGroups groups => .addIncludedGroups id (.items .tuple groups)
  | .removeGroups groups => .removeIncludedGroups id (.items .tuple groups)
  | .index => .index id

/-- Carry out an operation.  The handle itself does not change. -/
def run {m : Type → Type} (transport : Transport m) (handle : Handle) (operation : Operation) :
    m Answer :=
  transport.perform (handle.call operation)

end Handle

end ReviewGroups
