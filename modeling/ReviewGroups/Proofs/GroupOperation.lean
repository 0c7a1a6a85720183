/-
Module: ReviewGroups.Proofs.GroupOperation
Purpose: The operations that concern a single group: which group, which resource below it, and what
  they send first. Lookups, creations and calls by identifier are one type here, so that a fact
  about all of them is proved once and case by case only where they differ: in the method, the
  resource and the body.
Trusted boundary: none
Main exports: Call.identifier, Call.IsChange, Operation, Operation.run, Operation.identifier?,
  Operation.suffix, Task.isChange_iff_method_ne_get, Operation.path_of_task,
  Operation.run_startsWith
-/
import ReviewGroups.Proofs.FirstRequest
import ReviewGroups.Proofs.Result
import ReviewGroups.Rest.Transport

namespace ReviewGroups

/-- The argument of a call that denotes the group. -/
def Call.identifier : Call → Value
  | .getDetail id | .getName id | .putName id _ | .getDescription id | .putDescription id _
  | .getOwner id | .putOwner id _ | .getOptions id | .putOptions id _ | .listMembers id _
  | .addMembers id _ | .removeMembers id _ | .listIncludedGroups id | .addIncludedGroups id _
  | .removeIncludedGroups id _ | .index id => id

/-- What the path of a call ends in, behind the group. -/
def Call.suffix : Call → String
  | .getDetail _ => "/detail"
  | .getName _ | .putName .. => "/name"
  | .getDescription _ | .putDescription .. => "/description"
  | .getOwner _ | .putOwner .. => "/owner"
  | .getOptions _ | .putOptions .. => "/options"
  | .listMembers .. => "/members/"
  | .addMembers .. => "/members.add"
  | .removeMembers .. => "/members.delete"
  | .listIncludedGroups _ => "/groups/"
  | .addIncludedGroups .. => "/groups.add"
  | .removeIncludedGroups .. => "/groups.delete"
  | .index _ => "/index"

/-- A call changes something on the server. -/
def Call.IsChange : Call → Prop
  | .putName .. | .putDescription .. | .putOwner .. | .putOptions .. | .addMembers ..
  | .removeMembers .. | .addIncludedGroups .. | .removeIncludedGroups .. | .index _ => True
  | .getDetail _ | .getName _ | .getDescription _ | .getOwner _ | .getOptions _ | .listMembers ..
  | .listIncludedGroups _ => False

namespace Rest

open Http

/-- What can be done with a single group, the arguments as the caller gave them. -/
inductive Operation where
  | resolve (identifier : Value)
  | create (input : Value)
  | perform (call : Call)
deriving Repr, Inhabited

namespace Operation

/-- Carry out an operation; what matters here is not what it answers. -/
def run (client : Client) : Operation → Exchange Unit
  | .resolve identifier => do
      let _ ← Rest.resolve client identifier
      pure ()
  | .create input => do
      let _ ← Rest.create client input
      pure ()
  | .perform call => do
      let _ ← Rest.perform client call
      pure ()

/-- The task that an operation asks for, once its arguments are in order. -/
def task : Operation → Except Failure Task
  | .resolve identifier => Task.ofIdentifier identifier
  | .create input => Task.ofCreation input
  | .perform call => Task.ofCall call

/-- The identifier of the group that an operation concerns, if it is a text. -/
def identifier? : Operation → Option String
  | .resolve identifier => identifier.text?
  | .create input => (Task.creationName? input).join
  | .perform call => call.identifier.text?

/-- What the path of an operation ends in, behind the group. -/
def suffix : Operation → String
  | .resolve _ | .create _ => ""
  | .perform call => call.suffix

end Operation

/-! ### Tasks and their paths -/

theorem Method.upperMethod_name (method : Method) :
    upperMethod (.text method.name) = .ok method.name := by
  apply Result.eq_ok_of_toOption
  cases method <;> decide +kernel

theorem Method.name_injective {method other : Method} (same : method.name = other.name) :
    method = other := by
  cases method <;> cases other <;> first | rfl | exact absurd same (by decide)

namespace Task

variable {task : Task} {id part suffix : String} {value : Value}

theorem text?_of_readIdentifier (read : readIdentifier value = .ok id) : value.text? = some id := by
  unfold readIdentifier at read
  split at read <;> cases read <;> rfl

/-- A task concerns the group that an identifier denotes: its path is that of the group, and ends
as given. -/
def Concerns (task : Task) (id suffix : String) : Prop :=
  task.identifier? = some id ∧ task.path = "/groups/" ++ encodeIdentifier id ++ suffix

/-- A task without a resource below a group concerns the group itself. -/
theorem concerns_of_parts_nil (identified : task.identifier? = some id) (parts : task.parts = []) :
    task.Concerns id "" := by
  refine ⟨identified, ?_⟩
  unfold path
  rw [identified, parts]
  simp [groupPath]

/-- A task with a resource below a group has a slash and the name of the resource at the end. -/
theorem concerns_of_parts_singleton (identified : task.identifier? = some id)
    (parts : task.parts = [part]) (joined : "/" ++ part = suffix) : task.Concerns id suffix := by
  refine ⟨identified, ?_⟩
  unfold path
  rw [identified, parts, ← joined]
  simp [groupPath, String.append_assoc]

/-- The task of a call concerns the group that the call names, and its resource. -/
theorem concerns_of_ofCall {call : Call} (made : ofCall call = .ok task) :
    ∃ id, call.identifier.text? = some id ∧ task.Concerns id call.suffix := by
  cases call
  all_goals
    obtain ⟨id, read, made⟩ := Result.bind_eq_ok_iff.1 made
    refine ⟨id, text?_of_readIdentifier read, ?_⟩
  case putDescription =>
      obtain ⟨description, -, made⟩ := Result.bind_eq_ok_iff.1 made
      cases description with
      | none =>
          cases made
          exact concerns_of_parts_singleton rfl rfl rfl
      | some description =>
          cases made
          exact concerns_of_parts_singleton rfl rfl rfl
  -- These calls have a second argument that must be in order.
  case putName | putOwner | addMembers | removeMembers | addIncludedGroups | removeIncludedGroups =>
      obtain ⟨input, -, made⟩ := Result.bind_eq_ok_iff.1 made
      cases made
      exact concerns_of_parts_singleton rfl rfl rfl
  all_goals
    cases made
    exact concerns_of_parts_singleton rfl rfl rfl

/-- The task of a creation is that of a group with the name, which is given and not empty. -/
theorem exists_of_ofCreation {input : Value} (made : ofCreation input = .ok task) :
    ∃ name, creationName? input = some (some name) ∧ task = .create name input := by
  unfold ofCreation at made
  split at made
  next => cases made
  next name named =>
    split at made
    next => cases made
    next written =>
      cases made
      cases name with
      | none => exact absurd rfl written
      | some name => exact ⟨name, named, rfl⟩

theorem concerns_of_ofCreation {input : Value} (made : ofCreation input = .ok task) :
    ∃ id, creationName? input = some (some id) ∧ task.Concerns id "" := by
  obtain ⟨name, named, rfl⟩ := exists_of_ofCreation made
  exact ⟨name, named, concerns_of_parts_nil rfl rfl⟩

theorem concerns_of_ofIdentifier (made : ofIdentifier value = .ok task) :
    ∃ id, value.text? = some id ∧ task.Concerns id "" := by
  obtain ⟨id, read, rfl⟩ := Result.map_eq_ok_iff.1 made
  exact ⟨id, text?_of_readIdentifier read, concerns_of_parts_nil rfl rfl⟩

/-- The task of a call is a fetch exactly if the call changes nothing. -/
theorem isChange_iff_method_ne_get {call : Call} (made : ofCall call = .ok task) :
    call.IsChange ↔ task.method ≠ .get := by
  cases call
  all_goals obtain ⟨id, -, made⟩ := Result.bind_eq_ok_iff.1 made
  case getDetail | getName | getDescription | getOwner | getOptions | listMembers
    | listIncludedGroups =>
      cases made
      exact iff_of_false False.elim fun other => other rfl
  case putOptions | index =>
      cases made
      exact iff_of_true trivial (by simp [method])
  case putDescription =>
      obtain ⟨description, -, made⟩ := Result.bind_eq_ok_iff.1 made
      cases description with
      | none =>
          cases made
          exact iff_of_true trivial (by simp [method])
      | some description =>
          cases made
          exact iff_of_true trivial (by simp [method])
  -- These calls have a second argument that must be in order.
  all_goals
    obtain ⟨input, -, made⟩ := Result.bind_eq_ok_iff.1 made
    cases made
    exact iff_of_true trivial (by simp [method])

end Task

/-- The path of an operation is that of the group that it concerns, and ends in the same way for
every group. -/
theorem Operation.path_of_task {operation : Operation} {task : Task} {id : String}
    (made : operation.task = .ok task) (identified : operation.identifier? = some id) :
    task.path = "/groups/" ++ encodeIdentifier id ++ operation.suffix := by
  cases operation with
  | resolve identifier =>
      obtain ⟨other, text, -, path⟩ := Task.concerns_of_ofIdentifier made
      cases text.symm.trans identified
      exact path
  | create input =>
      obtain ⟨other, named, -, path⟩ := Task.concerns_of_ofCreation made
      change (Task.creationName? input).join = some id at identified
      rw [named] at identified
      cases identified
      exact path
  | perform call =>
      obtain ⟨other, text, -, path⟩ := Task.concerns_of_ofCall made
      cases text.symm.trans identified
      exact path

/-! ### What is sent -/

open Exchange

/-- To take in a body is to send nothing. -/
theorem isQuiet_readBody (response : Response) (decode : String → Except Failure Json) :
    (readBody response decode).IsQuiet := by
  unfold readBody
  split
  · exact isQuiet_orThrow _
  · exact isQuiet_throw _

/-- What is sent first for a task is the request that the client makes of it. -/
def Task.Starts (client : Client) (task : Task) (request : Request) : Prop :=
  ∃ base, client.base = .ok base ∧ client.request base task.intent = .ok request

/-- Whatever comes of it, what is sent first for a task is the request that the client makes of
it. -/
theorem Task.fetch_startsWith (client : Client) (task : Task) :
    (task.fetch client).StartsWith (task.Starts client) := by
  unfold Task.fetch
  refine StartsWith.tryCatch_isQuiet ?_ fun failure => isQuiet_throw _
  unfold Task.exchange
  refine (send_startsWith client task.intent).bind_isQuiet ?_
  intro response
  split
  · exact isQuiet_readBody _ _
  · exact isQuiet_readBody _ _
  · exact isQuiet_readBody _ _
  · exact isQuiet_pure _

/-- Where a task is carried out once it is clear, what is sent first is the request of that task. -/
theorem startsWith_of_task {α : Type} {client : Client} {result : Except Failure Task}
    {next : Task → Json → Exchange α} (quiet : ∀ task data, (next task data).IsQuiet) :
    (do
      let task ← Failure.orThrow result
      let data ← task.fetch client
      next task data : Exchange α).StartsWith
      fun request => ∃ task, result = .ok task ∧ task.Starts client request := by
  refine (isQuiet_orThrow _).bind_startsWith ?_
  intro task reaches
  refine StartsWith.bind_isQuiet ?_ (quiet task)
  refine (task.fetch_startsWith client).imp ?_
  intro request starts
  exact ⟨task, eq_ok_of_reaches_orThrow reaches, starts⟩

theorem perform_startsWith (client : Client) (call : Call) :
    (perform client call).StartsWith fun request =>
      ∃ task, Task.ofCall call = .ok task ∧ task.Starts client request :=
  startsWith_of_task fun _ _ => isQuiet_orThrow _

/-- What an operation sends first is the request of its task. -/
theorem Operation.run_startsWith (client : Client) (operation : Operation) :
    (operation.run client).StartsWith fun request =>
      ∃ task, operation.task = .ok task ∧ task.Starts client request := by
  cases operation with
  | resolve identifier =>
      refine StartsWith.bind_isQuiet ?_ fun _ => isQuiet_pure _
      exact startsWith_of_task fun _ _ => isQuiet_orThrow _
  | create input =>
      refine StartsWith.bind_isQuiet ?_ fun _ => isQuiet_pure _
      refine startsWith_of_task fun _ _ => ?_
      exact (isQuiet_note _ _ _).bind fun _ => isQuiet_orThrow _
  | perform call =>
      exact (perform_startsWith client call).bind_isQuiet fun _ => isQuiet_pure _

end Rest

end ReviewGroups
