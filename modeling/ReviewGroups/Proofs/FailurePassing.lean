/-
Module: ReviewGroups.Proofs.FailurePassing
Purpose: What the client raises reaches the caller through all layers as it is, apart from an
  identifier that denotes nothing and a name that is taken. Everything that makes the client send
  something is an errand here, whatever it is asked of; `Errand.Tells` is the whole of what a caller
  may be told, one constructor for each of the two translations and one for all else. Whatever comes
  of an errand, what it was asked of stays as it is. Failures before the client is called (arguments
  that are not in order) are no business of this module.
Trusted boundary: none
Main exports: Errand, Errand.perform, Errand.task, Rest.Task.clientCall, Errand.Translates,
  Errand.Tells, Errand.tells_of_clientCall
-/
import ReviewGroups.Facade
import ReviewGroups.Proofs.GroupOperation
import ReviewGroups.Proofs.PlainFailure

namespace ReviewGroups

open Http

/-! ### What the client is called for -/

namespace Rest.Task

variable {client : Client} {task : Task} {network : Network} {wire ended : Wire}

/-- The call of the client that a task stands for. -/
def clientCall (client : Client) (task : Task) : Exchange Json :=
  match task.method with
  | .get => getJson client task.path task.parameters
  | .put => putJson client task.path task.body
  | .post => postJson client task.path task.body
  | .delete => do
      delete client task.path
      pure .null

private theorem exchange_eq_clientCall (client : Client) (task : Task) :
    task.exchange client = task.clientCall client := by
  cases task with
  | listMembers id recursive => cases recursive <;> rfl
  | deleteDescription id =>
      exact (Exchange.bind_assoc (send client (deleteDescription id).intent) (fun _ => pure ())
        fun _ => pure Json.null).symm
  | _ => rfl

/-- A call of the client fails in a plain way. -/
theorem clientCall_failsOnly (client : Client) (task : Task) :
    (task.clientCall client).FailsOnly Failure.IsPlain := by
  rw [← exchange_eq_clientCall]
  unfold exchange
  refine (send_failsOnly client task.intent).bind fun response => ?_
  split
  · exact readBody_failsOnly (fun _ _ => decodeJson_error) response
  · exact readBody_failsOnly (fun _ _ => decodeOptional_error) response
  · exact readBody_failsOnly (fun _ _ => decodeOptional_error) response
  · exact Exchange.failsOnly_pure _

/-- What the client raises for a task is what the caller of the task is told, in the words of the
task. -/
theorem fetch_of_clientCall {raised : Failure}
    (failed : task.clientCall client network wire = (.error raised, ended)) :
    task.fetch client network wire = (.error (task.reportFailure raised), ended) := by
  rw [← exchange_eq_clientCall] at failed
  exact Exchange.tryCatch_of_error failed

private theorem error_of_fetch {α : Type} {result : Except Failure Task}
    {next : Task → Json → Exchange α}
    {told : Failure} (made : result = .ok task)
    (failed : task.fetch client network wire = (.error told, ended)) :
    (do
      let task ← Failure.orThrow result
      let data ← task.fetch client
      next task data : Exchange α) network wire = (.error told, ended) := by
  subst made
  rw [Exchange.bind_of_ok (Exchange.orThrow_eq _)]
  exact Exchange.bind_of_error failed

/-- The task of a call has words of its own for no failure. -/
theorem reportFailure_of_ofCall {call : Call} (made : ofCall call = .ok task) (failure : Failure) :
    task.reportFailure failure = failure := by
  obtain ⟨id, -, identified, path⟩ := concerns_of_ofCall made
  -- Only a search and a creation go to the group itself; a call goes to a resource below it.
  have some : task.parts ≠ [] := by
    intro none
    have short := (concerns_of_parts_nil identified none).2
    rw [path] at short
    have same := congrArg String.length short
    cases call <;> simp [Call.suffix] at same
  cases task with
  | resolve id shown => exact absurd rfl some
  | create name input => exact absurd rfl some
  | _ => rfl

/-- The task of a search has words of its own only for what is not found. -/
theorem reportFailure_resolve {id shown : String} {failure : Failure}
    (other : ∀ error cause, failure = .api error cause → ∀ resourceType resourceId,
      error.kind ≠ .notFound resourceType resourceId) :
    (resolve id shown).reportFailure failure = failure := by
  cases failure with
  | api error cause =>
      have other := other error cause rfl
      unfold reportFailure
      dsimp only
      split
      next resourceType resourceId kind => exact absurd kind (other resourceType resourceId)
      next => rfl
  | _ => rfl

private theorem reportFailure_create {name : String} {input : Value} {failure : Failure}
    (other : ∀ error cause, failure = .api error cause → error.kind ≠ .conflict) :
    (create name input).reportFailure failure = failure := by
  cases failure with
  | api error cause =>
      have other := other error cause rfl
      unfold reportFailure
      dsimp only
      split
      next kind => exact absurd kind other
      next => rfl
  | _ => rfl

end Rest.Task

open Rest

/-! ### What callers ask for -/

/-- What a caller asks for that makes the client send something, by what it is asked of (the facade,
a listing or a query that is being built, or a handle) and by what it answers. -/
inductive Errand : Type → Type → Type where
  | id (identifier : Value) : Errand Unit Handle
  | create (group : Value) : Errand Unit Handle
  | list : Errand ListRequest ListRequest.Answer
  | listAsMap : Errand ListRequest ListRequest.Answer
  | query : Errand QueryRequest QueryRequest.Answer
  | operate (operation : Handle.Operation) : Errand Handle Answer

namespace Errand

variable {σ α : Type}

/-- Carry out an errand: what it comes to, and what it was asked of as it is afterwards. -/
def perform (client : Client) (errand : Errand σ α) (state : σ) : Exchange (Except Failure α × σ) :=
  let transport := Rest.transport client
  match errand, state with
  | .id identifier, () =>
      Building.ask () (fun handle => handle) ((Facade.full transport).id identifier)
  | .create group, () =>
      Building.ask () (fun handle => handle) ((Facade.full transport).create group)
  | .list, request => request.perform transport.listing .get
  | .listAsMap, request => request.perform transport.listing .getAsMap
  | .query, request => request.perform transport.query .get
  | .operate operation, handle =>
      Building.ask handle (fun answer => answer) (handle.run transport operation)

/-- The task that an errand comes to, once its arguments and what it is asked of are in order. -/
def task (errand : Errand σ α) (state : σ) : Except Failure Task :=
  match errand, state with
  | .id identifier, () => Task.ofIdentifier identifier
  | .create group, () => Task.ofCreation (Facade.creation group)
  | .list, request => request.filter.map .listGroups
  | .listAsMap, request => request.filter.map .listGroups
  | .query, request => request.filter.map .queryGroups
  | .operate operation, handle => Task.ofCall (handle.call operation)

end Errand

/-- A failure is one of a kind, or of a case of it. -/
def Failure.IsCaseOf (failure : Failure) (kind : String) : Prop :=
  ∃ error cause, failure = .api error cause ∧ kind ∈ error.kind.lineage

/-- What is not found may be a group. -/
theorem ApiKind.notFound_mem_lineage_iff {kind : ApiKind} :
    "NotFoundError" ∈ kind.lineage ↔
      (∃ resourceType resourceId, kind = .notFound resourceType resourceId) ∨
        ∃ group, kind = .groupNotFound group := by
  cases kind <;> simp [lineage, parent?, name]

theorem ApiKind.conflict_mem_lineage_iff {kind : ApiKind} :
    "ConflictError" ∈ kind.lineage ↔ kind = .conflict ∨ ∃ name, kind = .groupExists name := by
  cases kind <;> simp [lineage, parent?, name]

namespace Errand

variable {σ α : Type}

/-- The failures that an errand has words of its own for: a search for those of what is not found, a
creation for those of a conflict, and the others for none. -/
def Translates (errand : Errand σ α) (raised : Failure) : Prop :=
  match errand with
  | .id _ => raised.IsCaseOf "NotFoundError"
  | .create _ => raised.IsCaseOf "ConflictError"
  | .list | .listAsMap | .query | .operate _ => False

/-- What the caller of an errand is told when the client raises a failure: that there is no group
with the identifier, that there is one with the name already, and all else as it was raised. -/
inductive Tells : {σ α : Type} → Errand σ α → Failure → Failure → Prop where
  | notFound {identifier : Value} {id : String} {cause error : ApiError}
      (missing : Translates (.id identifier) (.ofError cause))
      (sought : identifier.text? = some id) (kind : error.kind = .groupNotFound (.text id))
      (status : error.status = .int 404) :
      Tells (.id identifier) (.ofError cause) (.api error (some cause))
  | taken {group : Value} {name : String} {cause error : ApiError}
      (clashes : Translates (.create group) (.ofError cause))
      (named : Task.creationName? (Facade.creation group) = some (some name))
      (kind : error.kind = .groupExists (.text name)) (status : error.status = .int 409)
      (message : error.message = cause.message) (details : error.details = cause.details) :
      Tells (.create group) (.ofError cause) (.api error (some cause))
  | passed {σ α : Type} {errand : Errand σ α} {raised : Failure}
      (other : ¬ Translates errand raised) : Tells errand raised raised

variable {errand : Errand σ α} {raised told : Failure}

/-- The search for a group tells the caller of a failure as it should. -/
theorem tells_of_ofIdentifier {identifier : Value} {task : Task}
    (made : Task.ofIdentifier identifier = .ok task) (plain : raised.IsPlain) :
    Tells (.id identifier) raised (task.reportFailure raised) := by
  obtain ⟨id, read, rfl⟩ := Result.map_eq_ok_iff.1 made
  by_cases missing : raised.IsCaseOf "NotFoundError"
  · have translates : Translates (.id identifier) raised := missing
    obtain ⟨error, cause, rfl, lineage⟩ := missing
    obtain ⟨plain, rfl⟩ := plain
    rcases ApiKind.notFound_mem_lineage_iff.1 lineage with
      ⟨resourceType, resourceId, kind⟩ | ⟨group, kind⟩
    · simp only [Task.reportFailure, kind]
      exact .notFound translates (Task.text?_of_readIdentifier read) rfl rfl
    · exact absurd kind (plain.notOfGroup group)
  · rw [Task.reportFailure_resolve]
    · exact .passed missing
    · intro error cause same resourceType resourceId kind
      refine missing ⟨error, cause, same, ?_⟩
      exact ApiKind.notFound_mem_lineage_iff.2 (.inl ⟨resourceType, resourceId, kind⟩)

/-- The creation of a group tells the caller of a failure as it should. -/
theorem tells_of_ofCreation {group : Value} {task : Task}
    (made : Task.ofCreation (Facade.creation group) = .ok task) (plain : raised.IsPlain) :
    Tells (.create group) raised (task.reportFailure raised) := by
  obtain ⟨name, named, rfl⟩ := Task.exists_of_ofCreation made
  by_cases clashes : raised.IsCaseOf "ConflictError"
  · have translates : Translates (.create group) raised := clashes
    obtain ⟨error, cause, rfl, lineage⟩ := clashes
    obtain ⟨plain, rfl⟩ := plain
    rcases ApiKind.conflict_mem_lineage_iff.1 lineage with kind | ⟨name, kind⟩
    · simp only [Task.reportFailure, kind]
      refine .taken translates named rfl rfl ?_ rfl
      simp [ApiError.groupExists, ApiError.worded, ApiError.build, plain.speaks kind]
    · exact absurd kind (plain.notOfName name)
  · rw [Task.reportFailure_create]
    · exact .passed clashes
    · intro error cause same kind
      exact clashes ⟨error, cause, same, ApiKind.conflict_mem_lineage_iff.2 (.inl kind)⟩

/-- The caller of an errand is told of a failure as it should be. -/
theorem tells_reportFailure {state : σ} {task : Task} (asked : errand.task state = .ok task)
    (plain : raised.IsPlain) : errand.Tells raised (task.reportFailure raised) := by
  cases errand with
  | id identifier => exact tells_of_ofIdentifier asked plain
  | create group => exact tells_of_ofCreation asked plain
  | list | listAsMap | query =>
      obtain ⟨filter, -, rfl⟩ := Result.map_eq_ok_iff.1 asked
      exact .passed not_false
  | operate operation =>
      rw [Task.reportFailure_of_ofCall asked]
      exact .passed not_false

variable {client : Client} {network : Network} {wire ended : Wire}

private theorem getAsMap_of_fetch {request : ListRequest} {task : Task}
    (asked : request.filter.map .listGroups = .ok task)
    (failed : task.fetch client network wire = (.error told, ended)) :
    request.getAsMap (Rest.transport client).listing network wire = (.error told, ended) := by
  obtain ⟨filter, isFilter, rfl⟩ := Result.map_eq_ok_iff.1 asked
  have listed : Rest.listGroups client filter network wire = (.error told, ended) :=
    Exchange.bind_of_error failed
  unfold ListRequest.getAsMap
  rw [isFilter]
  exact (Exchange.bind_of_ok rfl).trans listed

/-- Where the request of the task of an errand fails, the errand does. -/
theorem perform_of_fetch {state : σ} {task : Task} (asked : errand.task state = .ok task)
    (failed : task.fetch client network wire = (.error told, ended)) :
    errand.perform client state network wire = (.ok (.error told, state), ended) := by
  cases errand with
  | id identifier =>
      have resolved : Rest.resolve client identifier network wire = (.error told, ended) :=
        Task.error_of_fetch asked failed
      have searched : (Facade.full (Rest.transport client)).id identifier network wire =
          (.error told, ended) :=
        (Exchange.bind_of_ok rfl).trans (Exchange.bind_of_error resolved)
      exact Building.ask_eq searched
  | create group =>
      have created : Rest.create client (Facade.creation group) network wire =
          (.error told, ended) :=
        Task.error_of_fetch asked failed
      have answered : (Facade.full (Rest.transport client)).create group network wire =
          (.error told, ended) :=
        (Exchange.bind_of_ok rfl).trans (Exchange.bind_of_error created)
      exact Building.ask_eq answered
  | list => exact Building.ask_eq (Exchange.bind_of_error (getAsMap_of_fetch asked failed))
  | listAsMap => exact Building.ask_eq (getAsMap_of_fetch asked failed)
  | query =>
      obtain ⟨filter, isFilter, rfl⟩ := Result.map_eq_ok_iff.1 asked
      have found : Rest.queryGroups client filter network wire = (.error told, ended) :=
        Exchange.bind_of_error failed
      have answered : state.get (Rest.transport client).query network wire =
          (.error told, ended) := by
        rw [QueryRequest.get, isFilter]
        exact (Exchange.bind_of_ok rfl).trans found
      exact Building.ask_eq answered
  | operate operation => exact Building.ask_eq (Task.error_of_fetch asked failed)

/-- Whatever comes of an errand, what it was asked of is as it was before. -/
theorem exists_perform (errand : Errand σ α) (client : Client) (state : σ) (network : Network)
    (wire : Wire) :
    ∃ outcome ended,
      errand.perform client state network wire = (.ok (outcome, state), ended) := by
  cases errand <;> exact ⟨_, _, Building.ask_eq rfl⟩

/-- Whatever the client raises for an errand, the caller is told of it as it should be: that there
is no group with the identifier, that there is one with the name already, and all else as it was
raised.  Whatever comes of it, what the errand was asked of is as it was before. -/
theorem tells_of_clientCall (errand : Errand σ α) (client : Client) (state : σ) :
    (∀ task network wire raised ended, errand.task state = .ok task →
        task.clientCall client network wire = (.error raised, ended) →
        ∃ told, errand.Tells raised told ∧
          errand.perform client state network wire = (.ok (.error told, state), ended)) ∧
      ∀ network wire, ∃ outcome ended,
        errand.perform client state network wire = (.ok (outcome, state), ended) := by
  constructor
  · intro task network wire raised ended asked failed
    have plain := Task.clientCall_failsOnly client task network wire raised ended failed
    have fetched := Task.fetch_of_clientCall failed
    exact ⟨_, tells_reportFailure asked plain, perform_of_fetch asked fetched⟩
  · exact exists_perform errand client state

/-! ### Samples -/

/-- The server has nothing, whatever it is asked for. -/
def nothing : Network := fun _ => .response ⟨404, [], "gone".toUTF8.toList⟩

/-- The kind of failure that a result is, if it is one that no other one led to. -/
def kind? {α : Type} : Except Failure α → Option String
  | .error (.api error none) => some error.kind.name
  | _ => none

/-- A failure of a kind is one of that kind, or of a case of it. -/
theorem exists_of_kind? {result : Except Failure α} {kind : String}
    (named : kind? result = some kind) :
    ∃ failure, result = .error failure ∧ failure.IsCaseOf kind := by
  unfold kind? at named
  split at named
  next error =>
    cases named
    refine ⟨_, rfl, error, none, rfl, ?_⟩
    unfold ApiKind.lineage
    split
    · simp
    · split <;> simp
  next => cases named

/-- A search for a group that is not there is told so; what the client raised is the cause. -/
theorem tells_of_clientCall_missing :
    ∃ task raised ended cause error,
      (id (.text "x")).task () = .ok task ∧
        task.clientCall Client.anonymous nothing .fresh = (.error raised, ended) ∧
        raised = .ofError cause ∧ error.kind = .groupNotFound (.text "x") ∧
        error.status = .int 404 ∧
        (id (.text "x")).perform Client.anonymous () nothing .fresh =
          (.ok (.error (.api error (some cause)), ()), ended) := by
  have named : kind? ((Task.resolve "x" "x").clientCall Client.anonymous nothing .fresh).1 =
      some "NotFoundError" := by
    decide +kernel
  obtain ⟨raised, reached, missing⟩ := exists_of_kind? named
  rcases whole : (Task.resolve "x" "x").clientCall Client.anonymous nothing .fresh with
    ⟨result, ended⟩
  rw [whole] at reached
  obtain rfl : result = .error raised := reached
  have shown : (id (.text "x")).task () = .ok (.resolve "x" "x") := rfl
  obtain ⟨tells, -⟩ := tells_of_clientCall (id (.text "x")) Client.anonymous ()
  obtain ⟨told, toldAs, performed⟩ := tells _ nothing .fresh raised ended shown whole
  cases toldAs with
  | notFound missing sought kind status =>
      cases sought
      exact ⟨_, _, ended, _, _, shown, whole, rfl, kind, status, performed⟩
  | passed other => exact absurd missing other

end Errand

end ReviewGroups
