/-
Module: ReviewGroups.Proofs.FailureWays
Purpose: The ways in which a client can fail, as far as they are allowed: if each of its parts fails
  only in ways that are allowed, so does the whole. What is allowed is a parameter, any predicate on
  failures; the parts are the fields of `Client.PartsErrOnly`. Two modules use it with predicates of
  their own, one to show what failures speak of, the other which of them concern handles.
Trusted boundary: none
Main exports: Failure.errsOnly_ofMisuse, Exchange.FailsOnly, Client.errsOnly_request, Allows,
  send_failsOnly_of, readBody_failsOnly_of
-/
import ReviewGroups.Proofs.DeliveryRun
import ReviewGroups.Proofs.Result

namespace ReviewGroups

open Result

/-- A misuse is reported as it is. -/
theorem Failure.errsOnly_ofMisuse {α : Type} {allowed : Failure → Prop} {result : Except Misuse α}
    (only : ErrsOnly (fun misuse => allowed (.misuse misuse)) result) :
    ErrsOnly allowed (Failure.ofMisuse result) := by
  cases result with
  | error misuse => exact errsOnly_error (only misuse rfl)
  | ok value => exact errsOnly_ok value

/-! ### Computations that fail only in some ways -/

namespace Http

namespace Exchange

variable {α β : Type} {allowed : Failure → Prop}

/-- Whatever a computation fails with is allowed. -/
def FailsOnly (allowed : Failure → Prop) (computation : Exchange α) : Prop :=
  ∀ network wire failure ended,
    computation network wire = (.error failure, ended) → allowed failure

theorem failsOnly_pure (value : α) : FailsOnly allowed (Pure.pure value : Exchange α) := by
  intro network wire failure ended failed
  cases failed

/-- A failure that is allowed is. -/
theorem failsOnly_throw {failure : Failure} (fits : allowed failure) :
    FailsOnly allowed (throw failure : Exchange α) := by
  intro network wire other ended failed
  cases failed
  exact fits

/-- A result fails in the ways in which it does. -/
theorem failsOnly_orThrow {result : Except Failure α} (fits : ErrsOnly allowed result) :
    FailsOnly allowed (Failure.orThrow result : Exchange α) := by
  intro network wire failure ended failed
  rw [orThrow_eq] at failed
  exact fits failure (congrArg Prod.fst failed)

/-- Two computations one after the other fail in the ways in which each does. -/
theorem FailsOnly.bind {first : Exchange α} {next : α → Exchange β}
    (fails : FailsOnly allowed first) (failsToo : ∀ value, FailsOnly allowed (next value)) :
    FailsOnly allowed (first >>= next) := by
  intro network wire failure ended failed
  rcases reached : first network wire with ⟨other | value, middle⟩
  · rw [bind_of_error reached] at failed
    cases failed
    exact fails network wire failure _ reached
  · rw [bind_of_ok reached] at failed
    exact failsToo value network middle failure ended failed

theorem failsOnly_note (level : LogLevel) (channel : LogChannel) (message : String) :
    FailsOnly allowed (note level channel message) := by
  intro network wire failure ended failed
  cases failed

private theorem failsOnly_acquire : FailsOnly allowed acquire := by
  intro network wire failure ended failed
  unfold acquire at failed
  split at failed <;> cases failed

private theorem failsOnly_transmit
    (faults : ∀ fault message, allowed (NetworkFault.failure fault message))
    (connection : Nat) (request : Request) : FailsOnly allowed (transmit connection request) := by
  intro network wire failure ended failed
  unfold transmit at failed
  dsimp only at failed
  split at failed
  next => cases failed
  next fault message _ =>
    cases failed
    exact faults fault message

/-- What is done after a failure fails in the ways in which it does after one that is allowed. -/
theorem FailsOnly.tryCatch {first : Exchange α} {next : Failure → Exchange α}
    {before : Failure → Prop} (fails : FailsOnly before first)
    (failsToo : ∀ failure, before failure → FailsOnly allowed (next failure)) :
    FailsOnly allowed (tryCatch first next : Exchange α) := by
  intro network wire failure ended failed
  rcases reached : first network wire with ⟨other | value, middle⟩
  · rw [tryCatch_of_error reached] at failed
    exact failsToo other (fails network wire other _ reached) network middle failure ended failed
  · rw [tryCatch_of_ok reached] at failed
    cases failed

end Exchange

open Exchange

/-! ### Requests that cannot be made -/

variable {α : Type} {allowed : Failure → Prop} {client : Client}

/-- A client that has no base address was given one that cannot be worked with. -/
theorem Client.errsOnly_base
    (address : ∀ misuse : Misuse, misuse.IsOfAddress → allowed (.misuse misuse)) :
    ErrsOnly allowed client.base := by
  unfold base
  split
  · exact errsOnly_ok _
  · exact errsOnly_error (address _ trivial)

private theorem errsOnly_withParameters
    (addressed : ∀ misuse : Misuse, misuse.IsOfAddress → allowed (.misuse misuse))
    (address : Url.Address) (parameters : Option (Keyed (List String))) :
    ErrsOnly allowed (withParameters address parameters) := by
  unfold withParameters
  split
  · exact errsOnly_ok _
  · dsimp only
    split
    · exact errsOnly_ok _
    · exact errsOnly_error (addressed _ trivial)

private theorem errsOnly_nameHost
    (addressed : ∀ misuse : Misuse, misuse.IsOfAddress → allowed (.misuse misuse))
    (address : Url.Address) (headers : List Header) :
    ErrsOnly allowed (nameHost address headers) := by
  unfold nameHost
  split
  · exact errsOnly_ok _
  · split
    · exact errsOnly_error (addressed _ trivial)
    · exact errsOnly_ok _

/-- The parts of a request other than its address fail only in ways that are allowed. -/
structure Client.PartsErrOnly (allowed : Failure → Prop) (client : Client) (intent : Intent) :
    Prop where
  writing : Result.ErrsOnly (fun misuse => allowed (.misuse misuse)) intent.checkWritable
  headers :
    Result.ErrsOnly (fun misuse => allowed (.misuse misuse))
      (checkHeaders (client.buildHeaders intent.headers))
  parameters :
    Result.ErrsOnly (fun misuse => allowed (.misuse misuse))
      (Parameter.gather intent.givenParameters)
  method : Result.ErrsOnly (fun misuse => allowed (.misuse misuse)) (upperMethod intent.method)
  body : Result.ErrsOnly (fun misuse => allowed (.misuse misuse)) intent.body.requestBody
  patience : Result.ErrsOnly allowed client.patience

/-- A client that cannot make a request was asked for one with a part that is not in order. -/
theorem Client.errsOnly_request
    (addressed : ∀ misuse : Misuse, misuse.IsOfAddress → allowed (.misuse misuse))
    {intent : Intent} (parts : client.PartsErrOnly allowed intent) (base : Url.Address) :
    Result.ErrsOnly allowed (client.request base intent) := by
  unfold request
  refine (Failure.errsOnly_ofMisuse parts.writing).bind fun _ => ?_
  split
  · refine (errsOnly_ok _).bind fun reference => ?_
    dsimp only
    split
    · refine (errsOnly_ok _).bind fun appended => ?_
      refine (Failure.errsOnly_ofMisuse parts.headers).bind fun headers => ?_
      refine (Failure.errsOnly_ofMisuse parts.parameters).bind fun parameters => ?_
      refine (Failure.errsOnly_ofMisuse parts.method).bind fun method => ?_
      refine (errsOnly_withParameters addressed _ _).bind fun address => ?_
      refine (Failure.errsOnly_ofMisuse parts.body).bind fun body => ?_
      refine (errsOnly_nameHost addressed _ _).bind fun named => ?_
      exact parts.patience.bind fun time => errsOnly_ok _
    · exact errsOnly_error (addressed _ trivial)
  · exact errsOnly_error (addressed _ trivial)

/-! ### What a client raises -/

/-- What can happen to any request is allowed: faults of the network, addresses that cannot be
worked with, and responses without success. -/
structure Allows (allowed : Failure → Prop) : Prop where
  fault : ∀ fault message, allowed (NetworkFault.failure fault message)
  address : ∀ misuse : Misuse, misuse.IsOfAddress → allowed (.misuse misuse)
  response : ∀ response : Response, allowed response.failure

variable (allows : Allows allowed)

include allows

private theorem connect_failsOnly_of (patient : ErrsOnly allowed client.patience) :
    FailsOnly allowed (connect client) := by
  unfold connect
  apply (failsOnly_orThrow patient).bind
  intro time
  apply (failsOnly_orThrow (Client.errsOnly_base allows.address)).bind
  intro base
  exact failsOnly_acquire.bind fun connection => failsOnly_pure _

/-- What is done with a reply fails in ways that are allowed, whatever is sent in the course of
redirects. -/
theorem followUp_failsOnly_of (connection left : Nat) (request : Request) (response : Response) :
    FailsOnly allowed (followUp connection left request response) := by
  have next? (request : Request) (response : Response) :
      ErrsOnly allowed (nextRequest? request response) := by
    intro failure failed
    rcases nextRequest?_error failed with ⟨message, rfl⟩ | ⟨misuse, rfl, isOfAddress⟩
    · exact allows.fault _ message
    · exact allows.address misuse isOfAddress
  -- Each redirect that is followed leaves one less, so the induction is on how many are left.
  induction left generalizing request response with
  | zero =>
      unfold followUp
      apply (failsOnly_orThrow (next? request response)).bind
      rintro (_ | next)
      · exact failsOnly_pure _
      · exact failsOnly_throw (allows.fault _ _)
  | succ left inductionHypothesis =>
      unfold followUp
      apply (failsOnly_orThrow (next? request response)).bind
      rintro (_ | next)
      · exact failsOnly_pure _
      · change FailsOnly allowed (deliver connection left next)
        rw [deliver_eq]
        exact (failsOnly_transmit allows.fault connection next).bind (inductionHypothesis next)

/-- Whatever a client is to send, it fails in ways that are allowed. -/
theorem send_failsOnly_of {intent : Intent} (parts : client.PartsErrOnly allowed intent) :
    FailsOnly allowed (send client intent) := by
  unfold send
  apply (connect_failsOnly_of allows parts.patience).bind
  rintro ⟨connection, base⟩
  have logged : ErrsOnly (fun misuse => allowed (.misuse misuse))
      (intent.logMessage (client.buildPath intent.path)) :=
    parts.writing.bind fun _ => errsOnly_ok _
  refine (failsOnly_orThrow (Failure.errsOnly_ofMisuse logged)).bind fun line => ?_
  refine (failsOnly_note _ _ _).bind fun _ => ?_
  refine (failsOnly_orThrow (Client.errsOnly_request allows.address parts base)).bind
    fun request => ?_
  rw [deliver_eq]
  refine ((failsOnly_transmit allows.fault connection request).bind
    (followUp_failsOnly_of allows _ _ request)).bind fun response => ?_
  split
  · exact failsOnly_pure _
  · exact failsOnly_throw (allows.response response)

omit allows

/-- A body that cannot be read fails in ways that are allowed. -/
theorem readBody_failsOnly_of {decode : String → Except Failure Json} {response : Response}
    (read : ErrsOnly (fun misuse => allowed (.misuse misuse)) response.text)
    (decoded : ∀ text, ErrsOnly allowed (decode text)) :
    FailsOnly allowed (readBody response decode) := by
  unfold readBody
  split
  · exact failsOnly_orThrow (decoded _)
  next misuse unread => exact failsOnly_throw (read misuse unread)

end Http

end ReviewGroups
