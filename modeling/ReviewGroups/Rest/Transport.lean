/-
Module: ReviewGroups.Rest.Transport
Purpose: Carrying out tasks over the network, and taking in the answers.
Trusted boundary: none
Main exports: Task.intent, Task.fetch, Task.reportFailure, Task.answer, Task.run, Rest.transport
-/
import ReviewGroups.Http.Delivery
import ReviewGroups.Rest.Payload
import ReviewGroups.Rest.Task

namespace ReviewGroups.Rest

open Http

namespace Task

/-- What a task wants to send. -/
def intent (task : Task) : Intent :=
  { method := .text task.method.name
    path := task.path
    parameters := task.parameters
    body := task.body
    headers := [] }

/-- Send the request of a task and decode the answer: one that was asked for must be there, one to a
change may be blank, and one to a deletion is not looked at. -/
def exchange (client : Client) (task : Task) : Exchange Json := do
  let response ← send client task.intent
  match task.method with
  | .get => readBody response decodeJson
  | .put | .post => readBody response decodeOptional
  | .delete => pure .null

/-- What is said about an identifier that denotes nothing, where the usual words do not show it as
it is to be shown. -/
def notFoundMessage (id shown : String) : Value :=
  if shown = id then .null else .text (ApiKind.groupNotFound (.text shown)).defaultMessage

/-- A failure as the caller of a task sees it.  An identifier that denotes nothing and a name that
is taken are failures of their own; all others pass unchanged. -/
def reportFailure (task : Task) (failure : Failure) : Failure :=
  match task, failure with
  | .resolve id shown, .api error _ =>
      match error.kind with
      | .notFound .. =>
          .api (.groupNotFound (.text id) (notFoundMessage id shown) error.details) (some error)
      | _ => failure
  | .create name _, .api error _ =>
      match error.kind with
      | .conflict => .api (.groupExists (.text name) error.message error.details) (some error)
      | _ => failure
  | _, _ => failure

/-- The decoded answer of the server to a task. -/
def fetch (client : Client) (task : Task) : Exchange Json :=
  tryCatch (task.exchange client) fun failure => throw (task.reportFailure failure)

/-- What a decoded answer says to the caller of a task that concerns a single group. -/
def answer (task : Task) (data : Json) : Except Failure Answer :=
  match task with
  | .resolve .. | .create .. => (Payload.identifiedGroup data).map .group
  | .getDetail _ | .getOwner _ | .putOwner .. => (Payload.group data).map .group
  | .getOptions _ | .putOptions .. => (Payload.options data).map .options
  | .listMembers .. => (Payload.accounts data).map .accounts
  | .addMembers .. => (Payload.accounts (Payload.additions data)).map .accounts
  | .listIncludedGroups _ => (Payload.groups data).map .groups
  | .addIncludedGroups .. => (Payload.groups (Payload.additions data)).map .groups
  | .getName _ | .putName .. | .getDescription _ | .putDescription .. => .ok (.json data)
  | .listGroups _ | .queryGroups _ | .deleteDescription _ | .removeMembers ..
  | .removeIncludedGroups .. | .index _ => .ok .nothing

/-- Carry out a task that concerns a single group. -/
def run (client : Client) (task : Task) : Exchange Answer := do
  let data ← task.fetch client
  Failure.orThrow (task.answer data)

end Task

/-- Carry out a call. -/
def perform (client : Client) (call : Call) : Exchange Answer := do
  let task ← Failure.orThrow (Task.ofCall call)
  task.run client

/-- The group that an identifier denotes. -/
def resolve (client : Client) (identifier : Value) : Exchange Group := do
  let task ← Failure.orThrow (Task.ofIdentifier identifier)
  let data ← task.fetch client
  Failure.orThrow (Payload.identifiedGroup data)

/-- What is logged about a new group. -/
def createdMessage (name : String) : String := s!"Created group: {name}"

/-- A new group. -/
def create (client : Client) (input : Value) : Exchange Group := do
  let task ← Failure.orThrow (Task.ofCreation input)
  let data ← task.fetch client
  Exchange.note .info .transport (createdMessage (task.identifier?.getD ""))
  Failure.orThrow (Payload.identifiedGroup data)

/-- The groups that a filter lets through, by name. -/
def listGroups (client : Client) (filter : ListFilter) : Exchange (Keyed Group) := do
  let data ← (Task.listGroups filter).fetch client
  Failure.orThrow (Payload.groupMap data)

/-- The filter of a listing that a caller gives.  Where a filter is missing, what lacks a part of
one is named. -/
def readListFilter : Value → Except Misuse ListFilter
  | .record (.listFilter filter) => .ok filter
  | .record (.queryFilter filter) =>
      .error (.noPart (Value.record (.queryFilter filter)).kindName "projects")
  | .record (.group group) =>
      match group.options with
      | none => .error (.notIterable Value.null.kindName)
      | some _ => .error (.noPart Container.tuple.kindName "value")
  | value => .error (.noPart value.kindName "options")

/-- The filter of a query that a caller gives. -/
def readQueryFilter : Value → Except Misuse QueryFilter
  | .record (.queryFilter filter) => .ok filter
  | value => .error (.noPart value.kindName "query")

/-- The groups that a query finds. -/
def queryGroups (client : Client) (filter : QueryFilter) : Exchange (List Group) := do
  let data ← (Task.queryGroups filter).fetch client
  Failure.orThrow (Payload.groups data)

/-- Groups over the network.  Each answer brings groups of its own, so names given to them are only
counted in the log. -/
def transport (client : Client) : Transport Exchange :=
  { resolve := resolve client
    create := create client
    listing :=
      { fetch := listGroups client
        named := fun groups =>
          Exchange.note .debug .requests (ListRequest.listedMessage groups.length) }
    query := queryGroups client
    perform := perform client }

end ReviewGroups.Rest
