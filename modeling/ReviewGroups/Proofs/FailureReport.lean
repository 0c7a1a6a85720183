/-
Module: ReviewGroups.Proofs.FailureReport
Purpose: What a client reports of every outcome of a request, and the outcomes of which it does not
  report what it should. A report is compared with the outcome of the delivery (`Outcome`), not with
  the code that makes it: the kind of the failure by the status, its words by the text of the reply,
  the delay by the header. The outcomes that are not sound are named by `Outcome.IsSound`, and for
  those the report is shown to be something else.
Trusted boundary: none
Main exports: Response.Complains, Response.IsRetryAfter, Response.IsReportedAs, Outcome.IsReported,
  Outcome.IsSound, Outcome.isReported_report_iff, Client.send_reports
-/
import ReviewGroups.Http.Status
import ReviewGroups.Proofs.DeliveryRun
import ReviewGroups.Proofs.TrimmedText

namespace ReviewGroups.Http

variable {response : Response} {words : String} {seconds : Value} {outcome : Outcome}

/-! ### The words of a response -/

/-- A response without success says its text without blanks at the ends, or its status where nothing
else is there. -/
def Response.Complains (response : Response) (words : String) : Prop :=
  ∃ text, response.text = .ok text ∧
    words = if Text.isBlankText text then s!"HTTP {response.status}" else Text.trim text

/-- The complaint of a response is what it says. -/
theorem Response.complaint_eq_ok_iff :
    response.complaint = .ok words ↔ response.Complains words := by
  unfold complaint Complains
  rw [Result.map_eq_ok_iff]
  simp only [Text.isEmpty_trim, eq_comm]

/-- What a response says is never blank. -/
theorem Response.Complains.not_blank (complains : response.Complains words) :
    Text.isBlankText words = false := by
  obtain ⟨text, -, rfl⟩ := complains
  split
  next =>
    rw [Text.isBlankText, List.all_eq_false]
    refine ⟨'H', ?_, by decide⟩
    rw [String.toList_append]
    exact List.mem_append_left _ (by decide)
  next some =>
    rw [Text.isBlankText_trim]
    simpa using some

/-! ### The seconds of a response -/

/-- The header of a response for the seconds after which to try again spells a number. -/
def Response.SpellsRetryAfter (response : Response) (n : Nat) : Prop :=
  ∃ value, response.header? "retry-after" = some value ∧ Text.Spells value n

/-- The seconds after which to try again: the number that the header spells, or null where it is
missing or spells none. -/
def Response.IsRetryAfter (response : Response) (seconds : Value) : Prop :=
  (∃ n : Nat, response.SpellsRetryAfter n ∧ seconds = .int n) ∨
    ((∀ n, ¬ response.SpellsRetryAfter n) ∧ seconds = .null)

/-- Where the header for the seconds consists of digits of any kind, it spells a number. -/
def Response.HasPlainRetryAfter (response : Response) : Prop :=
  ∀ value, response.header? "retry-after" = some value → value ≠ "" →
    value.toList.all Text.isDigit = true → ∃ n, Text.Spells value n

/-- The seconds are read exactly if digits in the header spell a number, and then as what they
are. -/
theorem Response.retryAfter_eq_ok_iff :
    response.retryAfter = .ok seconds ↔
      response.HasPlainRetryAfter ∧ response.IsRetryAfter seconds := by
  unfold retryAfter HasPlainRetryAfter IsRetryAfter SpellsRetryAfter
  cases response.header? "retry-after" with
  | none => simp [@eq_comm _ seconds]
  | some value =>
      simp only [Option.some.injEq, forall_eq', exists_eq_left']
      split
      -- Whatever is not of digits only spells no number, and is not read as one either.
      next other =>
        have noNumber (n : Nat) : ¬ Text.Spells value n := by
          intro spells
          simp [spells.all_isDigit, spells.1] at other
        have mixed : value ≠ "" → ¬ value.toList.all Text.isDigit = true := by
          intro notEmpty digits
          simp [notEmpty, digits] at other
        constructor
        · intro passed
          cases passed
          exact ⟨fun notEmpty digits => absurd digits (mixed notEmpty), .inr ⟨noNumber, rfl⟩⟩
        · rintro ⟨-, ⟨n, spells, -⟩ | ⟨-, rfl⟩⟩
          · exact absurd spells (noNumber n)
          · rfl
      -- Digits without a place value are let through, and then refused.
      next digits =>
        obtain ⟨notEmpty, digits⟩ : value ≠ "" ∧ value.toList.all Text.isDigit = true := by
          simpa using digits
        constructor
        · intro read
          split at read
          next m whole =>
            cases read
            obtain ⟨n, spells, rfl⟩ :=
              (Text.readWhole_eq_ok_iff_spells notEmpty digits).1 whole
            exact ⟨fun _ _ => ⟨n, spells⟩, .inl ⟨n, spells, rfl⟩⟩
          next => cases read
          next => cases read
        · rintro ⟨plain, ⟨n, spells, rfl⟩ | ⟨none, -⟩⟩
          · rw [(Text.readWhole_eq_ok_iff_spells notEmpty digits).2 ⟨n, spells, rfl⟩]
          · obtain ⟨n, spells⟩ := plain notEmpty digits
            exact absurd spells (none n)

/-- Seconds are read exactly if digits in the header spell a number. -/
theorem Response.exists_retryAfter_iff :
    (∃ seconds, response.retryAfter = .ok seconds) ↔ response.HasPlainRetryAfter := by
  simp only [retryAfter_eq_ok_iff, exists_and_left, and_iff_left_iff_imp]
  intro _
  by_cases some : ∃ n, response.SpellsRetryAfter n
  · obtain ⟨n, spells⟩ := some
    exact ⟨.int n, .inl ⟨n, spells, rfl⟩⟩
  · exact ⟨.null, .inr ⟨fun n spells => some ⟨n, spells⟩, rfl⟩⟩

/-! ### The failure of a response -/

/-- What a client reports of a response without success: a failure of the kind that its status
stands for, with the status, with what the response says, and for too many requests with the
seconds. -/
structure Response.IsReportedAs (response : Response) (error : ApiError) : Prop where
  kind :
    ∃ reference, ApiError.ofGivenStatus (.int response.status) error.message [] = .ok reference ∧
      error.kind.name = reference.kind.name
  status : error.status = .int response.status
  message :
    ∃ words, response.Complains words ∧ Text.isBlankText words = false ∧ error.message = .text words
  retryAfter :
    response.status = 429 → ∃ seconds, error.kind = .rateLimit seconds ∧
      response.IsRetryAfter seconds

/-- The failure that a status and the words of a response make is what is reported of it. -/
theorem Response.isReportedAs_ofResponse (complains : response.Complains words)
    (other : response.status ≠ 429) :
    response.IsReportedAs (.ofResponse response.status words) := by
  constructor
  case kind => exact ⟨_, ApiError.ofGivenStatus_int response.status words, rfl⟩
  case status => rfl
  case message => exact ⟨words, complains, complains.not_blank, rfl⟩
  case retryAfter => exact fun many => absurd many other

/-- The failure that the words and the seconds of a response make is what is reported of it, where
there are too many requests. -/
theorem Response.isReportedAs_rateLimit (complains : response.Complains words)
    (many : response.status = 429) (named : response.IsRetryAfter seconds) :
    response.IsReportedAs
      (.build (.rateLimit seconds) (.text words) (.int response.status) []) := by
  constructor
  case kind =>
      refine ⟨_, ApiError.ofGivenStatus_int response.status words, ?_⟩
      rw [many]
      rfl
  case status => rfl
  case message => exact ⟨words, complains, complains.not_blank, rfl⟩
  case retryAfter => exact fun _ => ⟨seconds, rfl, named⟩

/-- The failure of a response is reported as it should be exactly if its text can be read, and where
there are too many requests its seconds too. -/
theorem Response.exists_isReportedAs_iff :
    (∃ error, response.failure = .ofError error ∧ response.IsReportedAs error) ↔
      (∃ text, response.text = .ok text) ∧
        (response.status = 429 → response.HasPlainRetryAfter) := by
  constructor
  · rintro ⟨error, fails, reported⟩
    obtain ⟨words, complains, -⟩ := reported.message
    have complained := complaint_eq_ok_iff.2 complains
    obtain ⟨text, readable, -⟩ := complains
    refine ⟨⟨text, readable⟩, fun many => exists_retryAfter_iff.1 ?_⟩
    simp only [failure, complained, if_pos many] at fails
    split at fails
    next seconds retry => exact ⟨seconds, retry⟩
    next => cases fails
  · rintro ⟨⟨text, readable⟩, plain⟩
    obtain ⟨words, complains⟩ : ∃ words, response.Complains words := ⟨_, text, readable, rfl⟩
    have complained := complaint_eq_ok_iff.2 complains
    by_cases many : response.status = 429
    · obtain ⟨seconds, retry⟩ := exists_retryAfter_iff.2 (plain many)
      refine ⟨_, ?_, isReportedAs_rateLimit complains many (retryAfter_eq_ok_iff.1 retry).2⟩
      simp only [failure, complained, if_pos many, retry]
    · refine ⟨_, ?_, isReportedAs_ofResponse complains many⟩
      simp only [failure, complained, if_neg many]

/-! ### The report -/

/-- What a client reports of a fault of the network, by its kind. -/
def NetworkFault.IsReportedAs (fault : NetworkFault) (error : ApiError) : Prop :=
  match fault with
  | .timeout => error.kind = .timeout
  | .connection => error.kind = .connection
  | .other => error.kind = .network
  | .outside _ => True

/-- A client reports an outcome: a response with success as it is, and all else as a failure that
comes from the server or the network. -/
def Outcome.IsReported (outcome : Outcome) (result : Except Failure Response) : Prop :=
  match outcome with
  | .answered response =>
      if response.isSuccess then result = .ok response
      else ∃ error, result = .error (.ofError error) ∧ response.IsReportedAs error
  | .failed fault _ => ∃ error, result = .error (.ofError error) ∧ fault.IsReportedAs error
  | .refused _ => ∃ error, result = .error (.ofError error)

/-- An outcome is one that a client can report: a response with success, or one whose text and
seconds can be read, or a fault of a known kind. -/
def Outcome.IsSound : Outcome → Prop
  | .answered response =>
      response.isSuccess = true ∨
        (∃ text, response.text = .ok text) ∧
          (response.status = 429 → response.HasPlainRetryAfter)
  | .failed fault _ => ∀ kind, fault ≠ .outside kind
  | .refused _ => False

/-- Exactly the outcomes that can be reported are. -/
theorem Outcome.isReported_report_iff : outcome.IsReported outcome.report ↔ outcome.IsSound := by
  cases outcome with
  | answered response =>
      have report : report (.answered response) =
          if response.isSuccess then .ok response else .error response.failure := rfl
      rw [report, IsReported, IsSound, ← Response.exists_isReportedAs_iff]
      cases success : response.isSuccess with
      | true => simp
      | false => simp
  | failed fault message =>
      cases fault with
      | timeout => exact iff_of_true ⟨_, rfl, rfl⟩ (by simp [IsSound])
      | connection => exact iff_of_true ⟨_, rfl, rfl⟩ (by simp [IsSound])
      | other => exact iff_of_true ⟨_, rfl, rfl⟩ (by simp [IsSound])
      | outside kind =>
          refine iff_of_false ?_ fun sound => sound kind rfl
          rintro ⟨error, reported, -⟩
          cases reported
  | refused misuse =>
      refine iff_of_false ?_ id
      rintro ⟨error, reported⟩
      cases reported

/-- Every request that a client can make comes to some outcome; the client returns a response
exactly if that is one with success, and it reports the outcome as it should exactly if that can be
reported. -/
theorem Client.send_reports (client : Client) (intent : Intent) (base : Url.Address)
    (request : Request) (isBase : client.base = .ok base)
    (made : client.request base intent = .ok request) (network : Network) (wire : Wire) :
    (∃ hops outcome, Delivers network redirectLimit wire.replies request hops outcome) ∧
      ∀ hops outcome, Delivers network redirectLimit wire.replies request hops outcome →
        wire.Exchanged network (send client intent network wire).2 hops ∧
          ((∃ response, (send client intent network wire).1 = .ok response) ↔
            ∃ response, outcome = .answered response ∧ response.isSuccess = true) ∧
          (outcome.IsReported (send client intent network wire).1 ↔ outcome.IsSound) := by
  refine ⟨exists_delivers _ _ _ _, ?_⟩
  intro hops outcome delivers
  obtain ⟨ended, reported, exchanged⟩ := send_of_delivers isBase made delivers
  rw [reported]
  refine ⟨exchanged, ?_, Outcome.isReported_report_iff⟩
  simp only [Outcome.report_eq_ok_iff]

/-! ### Samples -/

/-- The wish to see all groups. -/
def Intent.groups : Intent := Intent.plain "GET" "/groups/"

/-- There are too many requests for the server, whichever comes. -/
def tooMany (retryAfter : String) : Network := fun _ =>
  .response ⟨429, [("Retry-After", retryAfter.toUTF8.toList)], "slow down".toUTF8.toList⟩

/-- The client can make a request of the wish. -/
theorem Client.exists_request_groups :
    ∃ base request, anonymous.base = .ok base ∧ anonymous.request base .groups = .ok request := by
  have made : ∃ request, (anonymous.base >>= fun base => anonymous.request base .groups) =
      .ok request := by
    apply Result.exists_of_isSome_toOption
    decide +kernel
  obtain ⟨request, made⟩ := made
  obtain ⟨base, isBase, made⟩ := Result.bind_eq_ok_iff.1 made
  exact ⟨base, request, isBase, made⟩

/-- A request too many, with the seconds in plain digits. -/
theorem Client.send_reports_tooMany :
    ∃ base request, anonymous.base = .ok base ∧ anonymous.request base .groups = .ok request ∧
      (∃ hops outcome, Delivers (tooMany "30") redirectLimit 0 request hops outcome) ∧
      ∀ hops outcome, Delivers (tooMany "30") redirectLimit 0 request hops outcome →
        Wire.fresh.Exchanged (tooMany "30") (send anonymous .groups (tooMany "30") .fresh).2 hops ∧
          ((∃ response, (send anonymous .groups (tooMany "30") .fresh).1 = .ok response) ↔
            ∃ response, outcome = .answered response ∧ response.isSuccess = true) ∧
          (outcome.IsReported (send anonymous .groups (tooMany "30") .fresh).1 ↔
            outcome.IsSound) := by
  obtain ⟨base, request, isBase, made⟩ := exists_request_groups
  exact ⟨base, request, isBase, made,
    send_reports anonymous .groups base request isBase made (tooMany "30") .fresh⟩

/-- The misuse that a result is, if it is one. -/
def misuse? : Except Failure Response → Option Misuse
  | .error (.misuse misuse) => some misuse
  | _ => none

theorem Outcome.not_isReported_misuse (misuse : Misuse) :
    ¬ outcome.IsReported (.error (.misuse misuse)) := by
  cases outcome <;> simp [IsReported, Failure.ofError]

/-- A request too many, with the seconds as a raised digit: what the client reports is no failure
that comes from the server. -/
theorem Client.send_escapes_tooMany :
    ∃ base request hops outcome, anonymous.base = .ok base ∧
      anonymous.request base .groups = .ok request ∧
      Delivers (tooMany "²") redirectLimit 0 request hops outcome ∧
      (send anonymous .groups (tooMany "²") .fresh).1 = .error (.misuse (.notWhole "²")) ∧
      ¬ outcome.IsReported (send anonymous .groups (tooMany "²") .fresh).1 := by
  obtain ⟨base, request, isBase, made⟩ := exists_request_groups
  obtain ⟨hops, outcome, delivers⟩ := exists_delivers (tooMany "²") redirectLimit 0 request
  have escaped :
      misuse? (send anonymous .groups (tooMany "²") .fresh).1 = some (.notWhole "²") := by
    decide +kernel
  generalize (send anonymous .groups (tooMany "²") .fresh).1 = result at escaped ⊢
  obtain rfl : result = .error (.misuse (.notWhole "²")) := by
    unfold misuse? at escaped
    split at escaped
    next => rw [Option.some.inj escaped]
    next => cases escaped
  exact ⟨base, request, hops, outcome, isBase, made, delivers, rfl,
    Outcome.not_isReported_misuse _⟩

end ReviewGroups.Http
