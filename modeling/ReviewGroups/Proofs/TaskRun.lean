/-
Module: ReviewGroups.Proofs.TaskRun
Purpose: What comes of a task once the server has answered its request with success: the text of the
  answer, decoded as the method of the task asks for. `IsAnswered` says of a network and a wire that
  they answer with some text, without saying how many redirects it takes; the outcome depends on the
  text alone.
Trusted boundary: none
Main exports: Http.decodeOptional_eq_ok_iff, Task.IsAnswered, Task.decode, Task.fetch_of_isAnswered,
  Task.outcome_of_isAnswered
-/
import ReviewGroups.Proofs.DocumentStart
import ReviewGroups.Proofs.ExchangeRun
import ReviewGroups.Proofs.PayloadShape
import ReviewGroups.Rest.Transport

namespace ReviewGroups

namespace Http

private theorem mem_of_mem_dropGuard {text : String} {c : Char}
    (present : c ∈ (dropGuard text).toList) :
    c ∈ text.toList := by
  unfold dropGuard at present
  dsimp only at present
  split at present
  · rw [String.toList_ofList] at present
    exact List.mem_of_mem_drop present
  · exact present

/-- A text that may be blank decodes to null if it is, and otherwise as any other text. -/
theorem decodeOptional_eq_ok_iff {text : String} {value : Json} :
    decodeOptional text = .ok value ↔
      (Text.isBlankText text = true ∧ value = .null) ∨ Json.parse (dropGuard text) = .ok value := by
  unfold decodeOptional
  split
  next blank =>
    constructor
    · intro decoded
      cases decoded
      exact .inl ⟨blank, rfl⟩
    · rintro (⟨-, rfl⟩ | read)
      · rfl
      -- A blank text is not looked into, but nothing could be read of it either.
      · obtain ⟨c, present, notBlank⟩ := Json.not_blank_of_parse read
        have blankToo := List.all_eq_true.1 blank c (mem_of_mem_dropGuard present)
        rw [notBlank] at blankToo
        cases blankToo
  next some => simp [decodeJson_eq_ok_iff, some]

/-- A text that may be blank and does not decode is reported as malformed. -/
theorem decodeOptional_error {text : String} {failure : Failure}
    (refused : decodeOptional text = .error failure) : failure.IsMalformed := by
  unfold decodeOptional at refused
  split at refused
  · cases refused
  · exact decodeJson_error refused

end Http

/-! ### Tasks -/

namespace Rest.Task

open Http

variable {client : Client} {task : Task} {text : String} {network : Network} {wire sent : Wire}

/-- The server answers the request of a task with success and with this text; the wire is `sent`
after that. -/
def IsAnswered (client : Client) (task : Task) (text : String) (network : Network)
    (wire sent : Wire) : Prop :=
  ∃ response, send client task.intent network wire = (.ok response, sent) ∧
    response.text = .ok text

/-- What a text is decoded to as the answer to a task. -/
def decode (task : Task) (text : String) : Except Failure Json :=
  match task.method with
  | .get => decodeJson text
  | .put | .post => decodeOptional text
  | .delete => .ok .null

/-- An answer that is there, and not null, is what the text writes behind the guard. -/
theorem decode_eq_ok_iff {data : Json} (looked : task.method ≠ .delete) (some : data ≠ .null) :
    task.decode text = .ok data ↔ Json.parse (dropGuard text) = .ok data := by
  unfold decode
  cases method : task.method with
  | get => exact decodeJson_eq_ok_iff
  | put => simp [decodeOptional_eq_ok_iff, some]
  | post => simp [decodeOptional_eq_ok_iff, some]
  | delete => exact absurd method looked

/-- An answer that does not decode is reported as malformed. -/
theorem decode_error {failure : Failure} (refused : task.decode text = .error failure) :
    failure.IsMalformed := by
  unfold decode at refused
  cases method : task.method with
  | get =>
      rw [method] at refused
      exact decodeJson_error refused
  | put =>
      rw [method] at refused
      exact decodeOptional_error refused
  | post =>
      rw [method] at refused
      exact decodeOptional_error refused
  | delete =>
      rw [method] at refused
      cases refused

private theorem reportFailure_of_isMalformed {failure : Failure} (malformed : failure.IsMalformed) :
    task.reportFailure failure = failure := by
  cases failure with
  | api error cause =>
      cases cause with
      | none =>
          change error.kind = .malformed at malformed
          cases task <;> simp [reportFailure, malformed]
      | some earlier => exact malformed.elim
  | invalid schema issues => exact malformed.elim
  | unsupported operation => exact malformed.elim
  | misuse misuse => exact malformed.elim

/-- The text of an answer alone decides what is fetched. -/
theorem exchange_of_isAnswered (answered : task.IsAnswered client text network wire sent) :
    task.exchange client network wire = (task.decode text, sent) := by
  obtain ⟨response, delivered, readable⟩ := answered
  have read (decode : String → Except Failure Json) :
      readBody response decode network sent = (decode text, sent) := by
    rw [readBody, readable]
    exact Exchange.orThrow_eq _
  apply Eq.trans (Exchange.bind_of_ok delivered)
  unfold decode
  cases task.method with
  | get => exact read _
  | put => exact read _
  | post => exact read _
  | delete => rfl

/-- What is fetched for a task is what the text of the answer decodes to. -/
theorem fetch_of_isAnswered (answered : task.IsAnswered client text network wire sent) :
    task.fetch client network wire = (task.decode text, sent) := by
  have exchanged := exchange_of_isAnswered answered
  cases decoded : task.decode text with
  | ok data =>
      rw [decoded] at exchanged
      exact Exchange.tryCatch_of_ok exchanged
  | error failure =>
      rw [decoded] at exchanged
      apply Eq.trans (Exchange.tryCatch_of_error exchanged)
      rw [reportFailure_of_isMalformed (decode_error decoded)]
      rfl

private theorem exchange_of_fetch_eq_ok {data : Json}
    (fetched : task.fetch client network wire = (.ok data, sent)) :
    task.exchange client network wire = (.ok data, sent) := by
  rcases reached : task.exchange client network wire with ⟨failure | value, middle⟩
  · have failed := fetched.symm.trans (Exchange.tryCatch_of_error reached)
    cases failed
  · have same := fetched.symm.trans (Exchange.tryCatch_of_ok reached)
    cases same
    rfl

/-- To take in a body changes nothing on the wire. -/
theorem wire_of_readBody (response : Response) (decode : String → Except Failure Json) :
    (readBody response decode network wire).2 = wire := by
  unfold readBody
  cases response.text with
  | ok text => exact congrArg Prod.snd (Exchange.orThrow_eq _)
  | error misuse => rfl

/-- Where something was fetched for a task, its request was answered with success, and nothing
happened on the wire after that. -/
theorem exists_send_of_fetch_eq_ok {data : Json}
    (fetched : task.fetch client network wire = (.ok data, sent)) :
    ∃ response, send client task.intent network wire = (.ok response, sent) := by
  obtain ⟨response, middle, delivered, read⟩ :=
    Exchange.exists_of_bind_eq_ok (exchange_of_fetch_eq_ok fetched)
  refine ⟨response, ?_⟩
  suffices same : sent = middle by rw [delivered, same]
  cases method : task.method with
  | delete =>
      rw [method] at read
      exact (congrArg Prod.snd read).symm
  | _ =>
      rw [method] at read
      exact (congrArg Prod.snd read).symm.trans (wire_of_readBody _ _)

/-- Where a task is carried out once it is clear, what comes of it is what is taken of the decoded
answer. -/
theorem outcome_of_isAnswered {α : Type} {result : Except Failure Task}
    {next : Task → Json → Exchange α} {take : Json → Except Failure α} (made : result = .ok task)
    (answered : task.IsAnswered client text network wire sent)
    (taken : ∀ data, (next task data network sent).1 = take data) :
    ((do
      let task ← Failure.orThrow result
      let data ← task.fetch client
      next task data : Exchange α) network wire).1 = task.decode text >>= take := by
  have fetched := fetch_of_isAnswered answered
  subst made
  rw [Exchange.bind_of_ok (Exchange.orThrow_eq _)]
  cases decoded : task.decode text with
  | ok data =>
      rw [decoded] at fetched
      rw [Exchange.bind_of_ok fetched]
      exact taken data
  | error failure =>
      rw [decoded] at fetched
      rw [Exchange.bind_of_error fetched]
      rfl

/-- Where a task that is carried out once it is clear comes to an answer, the task was clear,
something was fetched for it, and what follows came to that answer. -/
theorem exists_fetch_of_eq_ok {α : Type} {result : Except Failure Task}
    {next : Task → Json → Exchange α} {value : α}
    (answered :
      (do
        let task ← Failure.orThrow result
        let data ← task.fetch client
        next task data : Exchange α) network wire = (.ok value, sent)) :
    ∃ task data middle, result = .ok task ∧ task.fetch client network wire = (.ok data, middle) ∧
      next task data network middle = (.ok value, sent) := by
  obtain ⟨task, start, made, answered⟩ := Exchange.exists_of_bind_eq_ok answered
  rw [Exchange.orThrow_eq] at made
  cases made
  obtain ⟨data, middle, fetched, answered⟩ := Exchange.exists_of_bind_eq_ok answered
  exact ⟨task, data, middle, rfl, fetched, answered⟩

end Rest.Task

end ReviewGroups
