/-
Module: ReviewGroups.Proofs.JobOutcome
Purpose: Whatever is asked of the groups of a server reaches the network or is reported as a failure
  of the hierarchy, exactly if the parts of its URL are not too long, its numbers can be written and
  the headers of the client can be sent. A job is a search or an operation; every job is a task that
  is cleared, fetched and followed by something that sends nothing, and so only the request of the
  task matters. The condition is an equivalence: for every other job nothing is sent, and what the
  caller sees is a misuse, which the hierarchy does not cover.
Trusted boundary: none
Main exports: Rest.Job, Job.run, Job.task, Job.IsTyped, Job.ReachesOrReports, Job.IsSendable,
  Job.reaches_or_reports_iff
-/
import ReviewGroups.Proofs.FailureWays
import ReviewGroups.Proofs.FilterRequest
import ReviewGroups.Proofs.TaskRequest
import ReviewGroups.Proofs.WrittenText

namespace ReviewGroups

namespace Http

open Url

variable {client : Client} {base : Address} {intent : Intent}

/-! ### Requests that are sent or refused -/

/-- A client that has a time to wait refuses a request as a misuse only: for its headers, for a
number that cannot be written, or for a URL that cannot be built. -/
theorem Client.exists_misuse_of_error {failure : Failure} {time : Value}
    (patient : client.patience = .ok time)
    (refused : client.request base intent = .error failure) :
    ∃ misuse, failure = .misuse misuse := by
  let isMisuse (failure : Failure) : Prop := ∃ misuse, failure = .misuse misuse
  have misused (misuse : Misuse) : isMisuse (.misuse misuse) := ⟨misuse, rfl⟩
  suffices parts : client.PartsErrOnly isMisuse intent from
    Client.errsOnly_request (fun misuse _ => misused misuse) parts base failure refused
  constructor
  case patience =>
      rw [patient]
      exact Result.errsOnly_ok time
  all_goals exact fun misuse _ => misused misuse

end Http

namespace Rest

open Http Exchange Url

/-- What can be asked of the groups of a server: to look through them, or to do something with one
of them. -/
inductive Job where
  | search (search : Search)
  | operate (operation : Operation)
deriving Repr, Inhabited

variable {client : Client} {base : Address} {network : Network} {wire : Wire} {job : Job}

/-! ### Misuses of tasks -/

namespace Task

private theorem reportFailure_misuse (task : Task) (misuse : Misuse) :
    task.reportFailure (.misuse misuse) = .misuse misuse := by
  cases task <;> rfl

private theorem fetch_of_misuse {task : Task} {misuse : Misuse} {ended : Wire}
    (refused : send client task.intent network wire = (.error (.misuse misuse), ended)) :
    task.fetch client network wire = (.error (.misuse misuse), ended) := by
  have exchanged : task.exchange client network wire = (.error (.misuse misuse), ended) :=
    bind_of_error refused
  unfold fetch
  rw [tryCatch_of_error exchanged, reportFailure_misuse]
  rfl

end Task

/-! ### Jobs -/

namespace Job

/-- Carry out a job; what matters here is not what it answers. -/
def run (client : Client) : Job → Exchange Unit
  | .search sought => sought.run client
  | .operate operation => operation.run client

/-- The task that a job asks for, once its arguments are in order. -/
def task : Job → Except Failure Task
  | .search sought => .ok sought.task
  | .operate operation => operation.task

/-- The arguments of a job are of the kinds that they should have; those of a search always are. -/
def IsTyped : Job → Prop
  | .search _ => True
  | .operate operation => ∃ command, operation.command? = some command

/-- A group is to be created that has no name. -/
def IsNameless (job : Job) : Prop :=
  ∃ input : GroupInput, job = .operate (.create (.record (.groupInput input))) ∧
    input.name.getD "" = ""

/-- A job reaches the network, or what comes of it is a failure of the hierarchy. -/
def ReachesOrReports (client : Client) (job : Job) (network : Network) (wire : Wire) : Prop :=
  (∃ first more, (job.run client network wire).2.requests = wire.requests ++ first :: more) ∨
    ∃ error cause, (job.run client network wire).1 = .error (.api error cause)

/-- The request of a job can be sent: the headers of the client are ones that can be, the whole
numbers of a filter can be written, and the parts of the URL are not too long. -/
def IsSendable (client : Client) (base : Address) (job : Job) : Prop :=
  ∃ task, job.task = .ok task ∧ client.CanSend base task.intent

/-- To carry out a job is to clear its task, to fetch what that asks for, and to send nothing after
that. -/
theorem exists_run_eq (client : Client) (job : Job) :
    ∃ after : Task → Json → Exchange Unit, (∀ task data, (after task data).IsQuiet) ∧
      job.run client =
        Failure.orThrow job.task >>= fun task => task.fetch client >>= after task := by
  have forgetting {α : Type} (result : Except Failure Task) (next : Task → Json → Exchange α)
      (quiet : ∀ task data, (next task data).IsQuiet) :
      ∃ after : Task → Json → Exchange Unit, (∀ task data, (after task data).IsQuiet) ∧
        ((Failure.orThrow result >>= fun task => task.fetch client >>= next task) >>=
            fun _ => Pure.pure () : Exchange Unit) =
          Failure.orThrow result >>= fun task => task.fetch client >>= after task := by
    refine ⟨fun task data => next task data >>= fun _ => Pure.pure (),
      fun task data => (quiet task data).bind fun _ => isQuiet_pure (), ?_⟩
    exact (bind_assoc _ _ _).trans (congrArg _ (funext fun task => bind_assoc _ _ _))
  cases job with
  | search sought =>
      cases sought with
      | list filter =>
          exact forgetting (.ok (.listGroups filter))
            (fun _ data => Failure.orThrow (Payload.groupMap data)) fun _ _ => isQuiet_orThrow _
      | query filter =>
          exact forgetting (.ok (.queryGroups filter))
            (fun _ data => Failure.orThrow (Payload.groups data)) fun _ _ => isQuiet_orThrow _
  | operate operation =>
      cases operation with
      | resolve identifier => exact forgetting _ _ fun _ _ => isQuiet_orThrow _
      | create input =>
          exact forgetting _ _ fun _ _ => (isQuiet_note _ _ _).bind fun _ => isQuiet_orThrow _
      | perform call => exact forgetting _ _ fun _ _ => isQuiet_orThrow _

/-- What a job sends is what the request of its task does. -/
theorem requests_run {task : Task} (made : job.task = .ok task) :
    (job.run client network wire).2.requests =
      (send client task.intent network wire).2.requests := by
  obtain ⟨after, quiet, same⟩ := job.exists_run_eq client
  rw [same, made, bind_of_ok (orThrow_eq _), ← task.wire_fetch]
  rcases fetched : task.fetch client network wire with ⟨failure | data, middle⟩
  · rw [bind_of_error fetched]
  · rw [bind_of_ok fetched, quiet]

private theorem run_of_misuse {task : Task} {misuse : Misuse} {ended : Wire}
    (made : job.task = .ok task)
    (refused : send client task.intent network wire = (.error (.misuse misuse), ended)) :
    job.run client network wire = (.error (.misuse misuse), ended) := by
  obtain ⟨after, -, same⟩ := job.exists_run_eq client
  rw [same, made, bind_of_ok (orThrow_eq _)]
  exact bind_of_error (Task.fetch_of_misuse refused)

private theorem run_of_task_error {failure : Failure} (made : job.task = .error failure) :
    job.run client network wire = (.error failure, wire) := by
  obtain ⟨after, -, same⟩ := job.exists_run_eq client
  rw [same, made]
  exact bind_of_error (orThrow_eq _)

/-- A job with arguments of the kinds that they should have comes to a task with a body that can be
written, unless a group is to be created that has no name; that is reported as a bad request. -/
theorem task_cases (typed : job.IsTyped) :
    (¬ job.IsNameless ∧ ∃ task body, job.task = .ok task ∧ task.body.requestBody = .ok body) ∨
      (job.IsNameless ∧ job.task =
        .error (.ofError (.withMessage .badRequest "GroupInput must specify name"))) := by
  have unlike {sought : Search} : ¬ (search sought).IsNameless := by
    rintro ⟨input, ⟨⟩, -⟩
  cases job with
  | search sought =>
      cases sought with
      | list filter => exact .inl ⟨unlike, _, _, rfl, rfl⟩
      | query filter => exact .inl ⟨unlike, _, _, rfl, rfl⟩
  | operate operation =>
      obtain ⟨command, told⟩ := typed
      obtain ⟨body, isBody⟩ := command.exists_requestBody
      have written {task : Task} (made : operation.task = .ok task) :
          task.body.requestBody = .ok body := by
        have same := congrArg Intent.body (Operation.intent_of_command? told made)
        exact (congrArg Value.requestBody same).trans isBody
      unfold Operation.command? at told
      split at told
      next identifier =>
        obtain ⟨id, text, rfl⟩ := Option.map_eq_some_iff.1 told
        have made : Operation.task (.resolve identifier) = .ok (.resolve id identifier.toText) :=
          Result.map_eq_ok_iff.2 ⟨id, Task.readIdentifier_of_text? text, rfl⟩
        refine .inl ⟨?_, _, _, made, written made⟩
        rintro ⟨input, ⟨⟩, -⟩
      next input =>
        by_cases nameless : input.name.getD "" = ""
        · refine .inr ⟨⟨input, rfl, nameless⟩, ?_⟩
          simp [task, Operation.task, Task.ofCreation, Task.creationName?, nameless]
        · have made : Operation.task (.create (.record (.groupInput input))) =
              .ok (.create (input.name.getD "") (.record (.groupInput input))) := by
            simp [Operation.task, Task.ofCreation, Task.creationName?, nameless]
          refine .inl ⟨?_, _, _, made, written made⟩
          rintro ⟨other, same, without⟩
          cases same
          exact nameless without
      next => cases told
      next call =>
        have made : Operation.task (.perform call) = .ok command.task :=
          Task.ofCall_of_command? told
        refine .inl ⟨?_, _, _, made, written made⟩
        rintro ⟨input, ⟨⟩, -⟩

/-- The request of a job can be sent exactly if the client can make it. -/
theorem isSendable_iff {task : Task} {body : Option Json} {time : Value}
    (valid : client.HasValidBase base) (patient : client.patience = .ok time)
    (made : job.task = .ok task) (isBody : task.body.requestBody = .ok body) :
    job.IsSendable client base ↔ ∃ request, client.request base task.intent = .ok request := by
  rw [Task.exists_request_iff_canSend valid isBody patient]
  constructor
  · rintro ⟨other, madeToo, can⟩
    cases made.symm.trans madeToo
    exact can
  · intro can
    exact ⟨task, made, can⟩

/-- With a valid base URL and a time to wait, a job with arguments of the kinds that they should
have reaches the network or is reported as a failure of the hierarchy exactly if its request can be
sent, or if it is to create a group without a name, which is reported as a bad request.  Every other
job sends nothing, and what escapes is a misuse outside the hierarchy. -/
theorem reaches_or_reports_iff (valid : client.HasValidBase base)
    (patient : ∃ time, client.patience = .ok time) (typed : job.IsTyped) (network : Network)
    (wire : Wire) :
    (job.ReachesOrReports client network wire ↔
        job.IsNameless ∨ job.IsSendable client base) ∧
      (¬ job.ReachesOrReports client network wire →
        (job.run client network wire).2.requests = wire.requests ∧
          ∃ misuse, (job.run client network wire).1 = .error (.misuse misuse)) := by
  obtain ⟨time, patient⟩ := patient
  rcases task_cases typed with ⟨named, task, body, made, isBody⟩ | ⟨nameless, made⟩
  · have sendable := isSendable_iff valid patient made isBody
    cases requested : client.request base task.intent with
    | ok request =>
        obtain ⟨first, more, sent⟩ :=
          (exists_sent_iff valid.isBase patient network wire).2 ⟨request, requested⟩
        have reaches : job.ReachesOrReports client network wire :=
          .inl ⟨first, more, (requests_run made).trans sent⟩
        exact ⟨iff_of_true reaches (.inr (sendable.2 ⟨request, requested⟩)), fun escapes =>
          absurd reaches escapes⟩
    | error failure =>
        obtain ⟨misuse, rfl⟩ := Client.exists_misuse_of_error patient requested
        obtain ⟨ended, refused, quiet⟩ :=
          exists_send_of_error patient valid.isBase requested network wire
        have ran := run_of_misuse made refused
        have unsendable : ¬ job.IsSendable client base := by
          rw [sendable, requested]
          rintro ⟨request, ⟨⟩⟩
        refine ⟨iff_of_false ?_ (not_or.2 ⟨named, unsendable⟩), fun _ => ?_⟩
        · unfold ReachesOrReports
          rw [ran, quiet]
          rintro (⟨first, more, grown⟩ | ⟨error, cause, ⟨⟩⟩)
          simp at grown
        · rw [ran]
          exact ⟨quiet, misuse, rfl⟩
  · have reports : job.ReachesOrReports client network wire :=
      .inr ⟨_, _, congrArg Prod.fst (run_of_task_error made)⟩
    exact ⟨iff_of_true reports (.inl nameless), fun escapes => absurd reports escapes⟩

/-! ### Samples -/

open Operation (anonymousClient anonymousBase silence)

/-- The base URL of the client without credentials is valid. -/
theorem hasValidBase_anonymous : anonymousClient.HasValidBase anonymousBase := by
  have builds {intent : Intent}
      (made : (anonymousClient.request anonymousBase intent).toOption.isSome = true) :
      anonymousClient.BuildsUrl anonymousBase intent := by
    obtain ⟨request, made⟩ := Result.exists_of_isSome_toOption made
    exact Client.buildsUrl_of_request made
  constructor
  case isBase =>
      apply Result.eq_ok_of_toOption
      decide +kernel
  case absolute => decide +kernel
  case plain => exact builds (by decide +kernel)
  case bare => exact builds (by decide +kernel)

/-- To list the members of a group with a slash in its name. -/
def membersSample : Job := .operate (.perform (.listMembers (.text "a/b") (.bool true)))

/-- A job with a path and a query that are short reaches the network or is reported. -/
theorem reaches_or_reports_members :
    anonymousClient.HasValidBase anonymousBase ∧
      (∃ time, anonymousClient.patience = .ok time) ∧ membersSample.IsTyped ∧
      membersSample.ReachesOrReports anonymousClient silence .fresh := by
  have patient : ∃ time, anonymousClient.patience = .ok time := ⟨_, rfl⟩
  have typed : membersSample.IsTyped := ⟨.listMembers "a/b" true, rfl⟩
  have sendable : membersSample.IsSendable anonymousClient anonymousBase := by
    refine ⟨.listMembers "a/b" true, rfl, ⟨_, rfl⟩, rfl, ?_⟩
    constructor
    case asked => decide +kernel
    case target =>
        unfold Components.Fits
        decide +kernel
    case query =>
        intro values gathered
        cases gathered
        decide +kernel
  refine ⟨hasValidBase_anonymous, patient, typed, ?_⟩
  exact (reaches_or_reports_iff hasValidBase_anonymous patient typed silence .fresh).1.2
    (.inr sendable)

/-! ### Identifiers that are too long -/

/-- An operation on a group whose identifier is as long as a URL may be escapes: nothing is sent,
and what comes of it is outside the hierarchy. -/
theorem run_of_long {operation : Operation} {task : Task} {id : String} {time : Value}
    (isBase : client.base = .ok base) (patient : client.patience = .ok time)
    (made : operation.task = .ok task) (identified : operation.identifier? = some id)
    (writable : task.intent.checkWritable = .ok ()) (long : lengthLimit ≤ id.toList.length)
    (network : Network) (wire : Wire) :
    ∃ ended, (operate operation).run client network wire =
        (.error (.misuse (.address .tooLong)), ended) ∧ ended.requests = wire.requests := by
  have built : (client.buildPath task.path).toList =
      (mark client ++ "/groups/").toList ++ (encodeIdentifier id).toList ++
        operation.suffix.toList := by
    rw [Operation.path_of_task made identified, buildPath_eq, String.toList_ofList, pathBelow_eq]
  have longer : lengthLimit < (client.buildPath task.path).toList.length := by
    have noShorter : id.toList.length ≤ (encodeIdentifier id).toList.length := by
      rw [toList_encodeIdentifier]
      exact Percent.length_le_encode id.toList
    have front : "/groups/".toList.length = 8 := rfl
    rw [built, String.toList_append]
    simp only [List.length_append, front]
    omega
  have unread : Address.parse (client.buildPath task.path) = .error .tooLong := by
    unfold Address.parse
    dsimp only
    rw [if_pos longer]
  have asked : task.intent.path = task.path := rfl
  have refused : client.request base task.intent = .error (.misuse (.address .tooLong)) := by
    unfold Client.request
    rw [writable, asked, unread]
    rfl
  obtain ⟨ended, sent, quiet⟩ := exists_send_of_error patient isBase refused network wire
  exact ⟨ended, run_of_misuse made sent, quiet⟩

/-- To index a group with an identifier that is as long as a URL may be. -/
def longSample : Job :=
  .operate (.perform (.index (.text (String.ofList (List.replicate lengthLimit 'a')))))

/-- The index of a group with an identifier that is as long as a URL may be escapes, though the base
URL is valid and the identifier is a text. -/
theorem escapes_longSample :
    anonymousClient.HasValidBase anonymousBase ∧
      (∃ time, anonymousClient.patience = .ok time) ∧ longSample.IsTyped ∧
      (longSample.run anonymousClient silence .fresh).2.requests = [] ∧
      (longSample.run anonymousClient silence .fresh).1 = .error (.misuse (.address .tooLong)) ∧
      ¬ longSample.ReachesOrReports anonymousClient silence .fresh := by
  have long : lengthLimit ≤ (String.ofList (List.replicate lengthLimit 'a')).toList.length := by
    rw [String.toList_ofList, List.length_replicate]
  have patient : anonymousClient.patience = .ok (.int 30) := rfl
  have made (id : String) : (Operation.perform (.index (.text id))).task = .ok (.index id) := rfl
  have identified (id : String) :
      (Operation.perform (.index (.text id))).identifier? = some id := rfl
  obtain ⟨ended, ran, quiet⟩ := run_of_long hasValidBase_anonymous.isBase patient (made _)
    (identified _) rfl long silence .fresh
  have nothing : ended.requests = [] := quiet
  refine ⟨hasValidBase_anonymous, ⟨_, patient⟩, ⟨.index _, rfl⟩, ?_⟩
  unfold ReachesOrReports longSample
  rw [ran, nothing]
  refine ⟨rfl, rfl, ?_⟩
  rintro (⟨first, more, sent⟩ | ⟨error, cause, ⟨⟩⟩)
  cases sent

end Job

end Rest

end ReviewGroups
