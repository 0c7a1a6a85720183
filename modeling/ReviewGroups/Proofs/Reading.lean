/-
Module: ReviewGroups.Proofs.Reading
Purpose: The calls that answer groups or accounts: for every text of the server they answer exactly
  what the text describes, and report all else as malformed. The nine calls differ in what they read
  out of an answer, which is a field of `Reading`; the way there is the same for all, and so is the
  proof. What a text describes is said by relations on JSON values (`GroupShape`), and the depth of
  nesting is not bounded.
Trusted boundary: none
Main exports: Rest.Reading, Reading.run, Reading.Reads, Reading.IsAnswered, Reading.IsOutcome,
  Reading.take_eq_ok_iff, Reading.run_isOutcome
-/
import ReviewGroups.Proofs.GroupOperation
import ReviewGroups.Proofs.TaskRun

namespace ReviewGroups.Rest

open Http

/-- The calls that answer groups or accounts, by the type of what they answer; the arguments are as
the caller gave them. -/
inductive Reading : Type → Type where
  | resolve (identifier : Value) : Reading Group
  | create (input : Value) : Reading Group
  | listing (filter : ListFilter) : Reading (Keyed Group)
  | query (filter : QueryFilter) : Reading (List Group)
  | detail (id : Value) : Reading Answer
  | owner (id : Value) : Reading Answer
  | setOwner (id next : Value) : Reading Answer
  | members (id recursive : Value) : Reading Answer
  | includedGroups (id : Value) : Reading Answer

namespace Reading

/-- Carry out a call. -/
def run {α : Type} (client : Client) (reading : Reading α) : Exchange α :=
  match reading with
  | .resolve identifier => Rest.resolve client identifier
  | .create input => Rest.create client input
  | .listing filter => Rest.listGroups client filter
  | .query filter => Rest.queryGroups client filter
  | .detail id => Rest.perform client (.getDetail id)
  | .owner id => Rest.perform client (.getOwner id)
  | .setOwner id next => Rest.perform client (.putOwner id next)
  | .members id recursive => Rest.perform client (.listMembers id recursive)
  | .includedGroups id => Rest.perform client (.listIncludedGroups id)

/-- The task that a call asks for, once its arguments are in order. -/
def task {α : Type} (reading : Reading α) : Except Failure Task :=
  match reading with
  | .resolve identifier => Task.ofIdentifier identifier
  | .create input => Task.ofCreation input
  | .listing filter => .ok (.listGroups filter)
  | .query filter => .ok (.queryGroups filter)
  | .detail id => Task.ofCall (.getDetail id)
  | .owner id => Task.ofCall (.getOwner id)
  | .setOwner id next => Task.ofCall (.putOwner id next)
  | .members id recursive => Task.ofCall (.listMembers id recursive)
  | .includedGroups id => Task.ofCall (.listIncludedGroups id)

/-- What a JSON value says to the caller: a search and a creation ask for a group with an
identifier, a listing for an object of groups, a query and a look at included groups for a list of
groups, a look at members for a list of accounts, and the others for a group. -/
def Reads {α : Type} (reading : Reading α) (data : Json) (value : α) : Prop :=
  match reading, data, value with
  | .resolve _, data, group => data.DescribesGroup group ∧ group.IsIdentified
  | .create _, data, group => data.DescribesGroup group ∧ group.IsIdentified
  | .listing _, data, groups => Json.IsMapOf Json.DescribesGroup data groups
  | .query _, data, groups => Json.IsListOf Json.DescribesGroup data groups
  | .detail _, data, answer => ∃ group, data.DescribesGroup group ∧ answer = .group group
  | .owner _, data, answer => ∃ group, data.DescribesGroup group ∧ answer = .group group
  | .setOwner .., data, answer => ∃ group, data.DescribesGroup group ∧ answer = .group group
  | .members .., data, answer =>
      ∃ accounts, Json.IsListOf Json.DescribesAccount data accounts ∧ answer = .accounts accounts
  | .includedGroups _, data, answer =>
      ∃ groups, Json.IsListOf Json.DescribesGroup data groups ∧ answer = .groups groups

variable {α : Type}

/-- The arguments of a call are in order, and the server answers its request with success and with
this text. -/
def IsAnswered (client : Client) (reading : Reading α) (text : String) (network : Network)
    (wire : Wire) : Prop :=
  ∃ task sent, reading.task = .ok task ∧ task.IsAnswered client text network wire sent

/-- What comes of a call that is answered with a text: exactly what the JSON value behind the guard
says to the caller, and otherwise the report that the answer is malformed, and nothing besides. -/
structure IsOutcome (reading : Reading α) (text : String) (outcome : Except Failure α) : Prop where
  answers_iff :
    ∀ value, outcome = .ok value ↔
      ∃ data, Json.parse (dropGuard text) = .ok data ∧ reading.Reads data value
  malformed : ∀ failure, outcome = .error failure → failure.IsMalformed

/-! ### What is taken of a decoded answer -/

/-- What is taken of the decoded answer to a call. -/
def take {α : Type} (reading : Reading α) (data : Json) : Except Failure α :=
  match reading, data with
  | .resolve _, data => Payload.identifiedGroup data
  | .create _, data => Payload.identifiedGroup data
  | .listing _, data => Payload.groupMap data
  | .query _, data => Payload.groups data
  | .detail _, data => (Payload.group data).map .group
  | .owner _, data => (Payload.group data).map .group
  | .setOwner .., data => (Payload.group data).map .group
  | .members .., data => (Payload.accounts data).map .accounts
  | .includedGroups _, data => (Payload.groups data).map .groups

variable {client : Client} {reading : Reading α} {task : Task} {text : String} {network : Network}
  {wire : Wire} {data : Json} {value : α}

private theorem map_group_eq_ok_iff {answer : Answer} :
    (Payload.group data).map Answer.group = .ok answer ↔
      ∃ group, data.DescribesGroup group ∧ answer = .group group := by
  simp only [Result.map_eq_ok_iff, Payload.group_eq_ok_iff, Json.isGroup_iff_describesGroup,
    @eq_comm _ answer]

/-- What is taken is exactly what the value says to the caller. -/
theorem take_eq_ok_iff : reading.take data = .ok value ↔ reading.Reads data value := by
  cases reading with
  | resolve identifier => exact Payload.identifiedGroup_eq_ok_iff
  | create input => exact Payload.identifiedGroup_eq_ok_iff
  | listing filter => exact Payload.groupMap_eq_ok_iff_isMapOf
  | query filter => exact Payload.groups_eq_ok_iff
  | detail id => exact map_group_eq_ok_iff
  | owner id => exact map_group_eq_ok_iff
  | setOwner id next => exact map_group_eq_ok_iff
  | members id recursive =>
      simp only [take, Reads, Result.map_eq_ok_iff, Payload.accounts_eq_ok_iff, @eq_comm _ value]
  | includedGroups id =>
      simp only [take, Reads, Result.map_eq_ok_iff, Payload.groups_eq_ok_iff, @eq_comm _ value]

/-- What is not taken is reported as malformed. -/
theorem take_error {failure : Failure} (refused : reading.take data = .error failure) :
    failure.IsMalformed := by
  cases reading with
  | resolve identifier => exact Payload.identifiedGroup_error refused
  | create input => exact Payload.identifiedGroup_error refused
  | listing filter => exact Payload.groupMap_error refused
  | query filter => exact Payload.groups_error refused
  | detail id => exact Payload.group_error (Result.map_eq_error_iff.1 refused)
  | owner id => exact Payload.group_error (Result.map_eq_error_iff.1 refused)
  | setOwner id next => exact Payload.group_error (Result.map_eq_error_iff.1 refused)
  | members id recursive => exact Payload.accounts_error (Result.map_eq_error_iff.1 refused)
  | includedGroups id => exact Payload.groups_error (Result.map_eq_error_iff.1 refused)

private theorem not_reads_null : ¬ reading.Reads .null value := by
  rw [← take_eq_ok_iff]
  intro taken
  cases reading <;> cases taken

/-! ### From the text to the caller -/

/-- No call that answers something is a deletion. -/
theorem method_ne_delete (made : reading.task = .ok task) : task.method ≠ .delete := by
  cases reading with
  | resolve identifier =>
      obtain ⟨id, -, rfl⟩ := Result.map_eq_ok_iff.1 made
      simp [Task.method]
  | create input =>
      obtain ⟨name, -, rfl⟩ := Task.exists_of_ofCreation made
      simp [Task.method]
  | listing filter =>
      cases made
      simp [Task.method]
  | query filter =>
      cases made
      simp [Task.method]
  | setOwner id next =>
      obtain ⟨id, -, made⟩ := Result.bind_eq_ok_iff.1 made
      obtain ⟨input, -, made⟩ := Result.bind_eq_ok_iff.1 made
      cases made
      simp [Task.method]
  | _ =>
      obtain ⟨id, -, made⟩ := Result.bind_eq_ok_iff.1 made
      cases made
      simp [Task.method]

/-- What comes of a call that is answered with a text is taken of what the text decodes to. -/
theorem run_of_isAnswered {sent : Wire} (made : reading.task = .ok task)
    (answered : task.IsAnswered client text network wire sent) :
    (reading.run client network wire).1 = task.decode text >>= reading.take := by
  have settled (result : Except Failure α) (wire : Wire) :
      ((Failure.orThrow result : Exchange α) network wire).1 = result :=
    congrArg Prod.fst (Exchange.orThrow_eq _)
  cases reading with
  | resolve identifier => exact Task.outcome_of_isAnswered made answered fun data => settled _ _
  | create input => exact Task.outcome_of_isAnswered made answered fun data => settled _ _
  | listing filter =>
      cases made
      exact congrArg Prod.fst (Exchange.bind_orThrow (Task.fetch_of_isAnswered answered))
  | query filter =>
      cases made
      exact congrArg Prod.fst (Exchange.bind_orThrow (Task.fetch_of_isAnswered answered))
  | setOwner id next =>
      refine Task.outcome_of_isAnswered made answered fun data => Eq.trans (settled _ _) ?_
      obtain ⟨id, -, made⟩ := Result.bind_eq_ok_iff.1 made
      obtain ⟨input, -, made⟩ := Result.bind_eq_ok_iff.1 made
      cases made
      rfl
  | _ =>
      refine Task.outcome_of_isAnswered made answered fun data => Eq.trans (settled _ _) ?_
      obtain ⟨id, -, made⟩ := Result.bind_eq_ok_iff.1 made
      cases made
      rfl

/-- An answer that says something to the caller is what the text writes behind the guard. -/
theorem decode_eq_ok_iff (made : reading.task = .ok task) (reads : reading.Reads data value) :
    task.decode text = .ok data ↔ Json.parse (dropGuard text) = .ok data := by
  apply Task.decode_eq_ok_iff (method_ne_delete made)
  rintro rfl
  exact not_reads_null reads

/-! ### The outcome -/

/-- An anonymous client. -/
def sampleClient : Client := .new "http://h" none none (.int 30) []

/-- The search for a group. -/
def sampleSearch : Reading Group := .resolve (.text "x")

/-- Behind the guard, a group with a member and with a group in it. -/
def sampleText : String :=
  ")]\x7d'\n\x7b\"id\": \"x\", \"members\": [\x7b\"_account_id\": 7\x7d], " ++
    "\"includes\": [\x7b\"name\": \"y\"\x7d]\x7d"

/-- The network answers with success and with the sample text. -/
def sampleNetwork : Network := fun _ => .response ⟨200, [], sampleText.toUTF8.toList⟩

private theorem isAnswered_sample :
    sampleSearch.IsAnswered sampleClient sampleText sampleNetwork .fresh := by
  refine ⟨.resolve "x" "x", _, rfl, _, Prod.ext ?answered rfl, ?readable⟩
  case answered =>
      apply Result.eq_ok_of_toOption
      decide +kernel
  case readable =>
      apply Result.eq_ok_of_toOption
      decide +kernel

/-- The text of the server alone decides what comes of a call: the caller is given what the JSON
value behind the guard says to it, and where it says nothing, the report that the answer is
malformed. -/
theorem run_isOutcome (client : Client) (reading : Reading α) (text : String) (network : Network)
    (wire : Wire) (answered : reading.IsAnswered client text network wire) :
    reading.IsOutcome text (reading.run client network wire).1 := by
  obtain ⟨task, sent, made, answered⟩ := answered
  rw [run_of_isAnswered made answered]
  constructor
  case answers_iff =>
      intro value
      rw [Result.bind_eq_ok_iff]
      constructor
      · rintro ⟨data, decoded, taken⟩
        have reads := take_eq_ok_iff.1 taken
        exact ⟨data, (decode_eq_ok_iff made reads).1 decoded, reads⟩
      · rintro ⟨data, parsed, reads⟩
        exact ⟨data, (decode_eq_ok_iff made reads).2 parsed, take_eq_ok_iff.2 reads⟩
  case malformed =>
      intro failure failed
      rcases Result.bind_eq_error_iff.1 failed with undecoded | ⟨data, -, refused⟩
      · exact Task.decode_error undecoded
      · exact take_error refused

/-- A group with a member and with a group in it is what a search is answered with. -/
theorem run_isOutcome_of_nested :
    sampleSearch.IsAnswered sampleClient sampleText sampleNetwork .fresh ∧
      sampleSearch.IsOutcome sampleText (sampleSearch.run sampleClient sampleNetwork .fresh).1 :=
  ⟨isAnswered_sample, run_isOutcome _ _ _ _ _ isAnswered_sample⟩

end Reading

end ReviewGroups.Rest
