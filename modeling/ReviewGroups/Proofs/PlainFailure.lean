/-
Module: ReviewGroups.Proofs.PlainFailure
Purpose: The failures that a client raises by itself: none of them speaks of groups, and none has a
  cause. Needed where failures are translated on their way to the caller, to know that nothing was
  translated before.
Trusted boundary: none
Main exports: Failure.IsPlain, Response.isPlain_failure, send_failsOnly, readBody_failsOnly
-/
import ReviewGroups.Proofs.FailureReport
import ReviewGroups.Proofs.FailureWays
import ReviewGroups.Proofs.TaskRun

namespace ReviewGroups

/-! ### Plain failures -/

/-- A failure that comes from the server, the network or an answer does not speak of a group, and
says something where a resource is in conflict. -/
structure ApiError.IsPlain (error : ApiError) : Prop where
  notOfGroup : ∀ group, error.kind ≠ .groupNotFound group
  notOfName : ∀ name, error.kind ≠ .groupExists name
  speaks : error.kind = .conflict → error.message.isTruthy = true

/-- A failure is a misuse, or one that does not speak of a group and that no other one led to. -/
def Failure.IsPlain : Failure → Prop
  | .api error cause => error.IsPlain ∧ cause = none
  | .misuse _ => True
  | .invalid .. | .unsupported _ => False

/-- A kind of failure is one of those that have nothing to do with groups and conflicts. -/
def ApiKind.IsCommon : ApiKind → Prop
  | .groupNotFound _ | .groupExists _ | .conflict => False
  | _ => True

/-- A failure of a common kind is plain. -/
theorem Failure.isPlain_of_isCommon {error : ApiError} (common : error.kind.IsCommon) :
    (Failure.ofError error).IsPlain := by
  refine ⟨⟨?_, ?_, ?_⟩, rfl⟩
  · intro group same
    rw [same] at common
    exact common
  · intro name same
    rw [same] at common
    exact common
  · intro same
    rw [same] at common
    exact common.elim

/-- A status stands for a failure of a common kind, or for a conflict. -/
theorem ApiKind.ofStatus_cases (status : Int) :
    (ofStatus status).IsCommon ∨ ofStatus status = .conflict := by
  unfold ofStatus
  repeat'
    refine iteInduction (motive := fun kind : ApiKind => kind.IsCommon ∨ kind = .conflict)
      (fun _ => ?_) fun _ => ?_
  all_goals first | exact .inl trivial | exact .inr rfl

namespace Http

private theorem isPlain_ofResponse {status : Int} {words : String} (some : words ≠ "") :
    (Failure.ofError (.ofResponse status words)).IsPlain := by
  rcases ApiKind.ofStatus_cases status with common | conflict
  · exact Failure.isPlain_of_isCommon common
  · have kind : (ApiError.ofResponse status words).kind = .conflict := conflict
    refine ⟨⟨?_, ?_, ?_⟩, rfl⟩
    · simp [kind]
    · simp [kind]
    · intro _
      simp [ApiError.ofResponse, ApiError.build, Value.isTruthy, some]

/-- The failure of a response is plain. -/
theorem Response.isPlain_failure (response : Response) : response.failure.IsPlain := by
  unfold failure
  split
  next => trivial
  next words complained =>
    have some : words ≠ "" := by
      rintro rfl
      exact absurd (complaint_eq_ok_iff.1 complained).not_blank (by decide)
    split
    next =>
      split
      next => exact Failure.isPlain_of_isCommon trivial
      next => trivial
    next => exact isPlain_ofResponse some

/-- The failure of a fault of the network is plain. -/
theorem NetworkFault.isPlain_failure (fault : NetworkFault) (message : String) :
    (fault.failure message).IsPlain := by
  cases fault with
  | outside kind => trivial
  | _ => exact Failure.isPlain_of_isCommon trivial

end Http

/-- A failure that says that an answer is malformed is plain. -/
theorem Failure.IsMalformed.isPlain {failure : Failure} (malformed : failure.IsMalformed) :
    failure.IsPlain := by
  cases failure with
  | api error cause =>
      cases cause with
      | none =>
          have kind : error.kind = .malformed := malformed
          apply isPlain_of_isCommon
          rw [kind]
          trivial
      | some earlier => exact malformed.elim
  | misuse misuse => trivial
  | invalid schema issues => exact malformed.elim
  | unsupported operation => exact malformed.elim

namespace Http

open Exchange Result

variable {client : Client}

/-! ### What a client raises -/

private theorem allows_isPlain : Allows Failure.IsPlain where
  fault := NetworkFault.isPlain_failure
  address _ _ := trivial
  response := Response.isPlain_failure

/-- The parts of a request that are not in order are misused, which is plain. -/
theorem Client.partsErrOnly_isPlain (client : Client) (intent : Intent) :
    client.PartsErrOnly Failure.IsPlain intent := by
  constructor
  case patience =>
      unfold patience
      split
      · split
        · exact errsOnly_ok _
        · exact errsOnly_error trivial
        · exact errsOnly_error trivial
      · exact errsOnly_ok _
  all_goals exact fun _ _ => trivial

/-- Whatever a client is to send, it fails in a plain way. -/
theorem send_failsOnly (client : Client) (intent : Intent) :
    FailsOnly Failure.IsPlain (send client intent) :=
  send_failsOnly_of allows_isPlain (client.partsErrOnly_isPlain intent)

/-- A body that cannot be read fails in a plain way, where a text that does not decode is
malformed. -/
theorem readBody_failsOnly {decode : String → Except Failure Json}
    (reported : ∀ text failure, decode text = .error failure → failure.IsMalformed)
    (response : Response) : FailsOnly Failure.IsPlain (readBody response decode) :=
  readBody_failsOnly_of (fun _ _ => trivial) fun text failure failed =>
    (reported text failure failed).isPlain

end Http

end ReviewGroups
