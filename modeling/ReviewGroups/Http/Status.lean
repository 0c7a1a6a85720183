/-
Module: ReviewGroups.Http.Status
Purpose: The failure that a status stands for when a caller gives it, as any value.
Trusted boundary: none
Main exports: ApiKind.ofGivenStatus, ApiError.ofGivenStatus
-/
import ReviewGroups.Value.Key

namespace ReviewGroups

/-- A number with a fraction lies among the statuses of a failing server, which are at least 500 and
less than 600. -/
def Binary64.isServerStatus (x : Binary64) : Bool :=
  match x.decode with
  | .finite false mantissa exponent =>
      let wholePart := mantissa * Nat.pow 2 exponent.toNat / Nat.pow 2 (-exponent).toNat
      500 ≤ wholePart && wholePart < 600
  | _ => false

/-- The kind of failure that a value stands for as a status: a whole number by the status it is, and
another number by the range it lies in.  A value that cannot be a key is refused first, and one that
is no number has no place among the statuses. -/
def ApiKind.ofGivenStatus (status : Value) : Except Misuse ApiKind := do
  let key ← status.readKey
  match key.whole?, key with
  | some n, _ => pure (.ofStatus n)
  | none, .float x => pure (if x.isServerStatus then .server else .other)
  | none, value => throw (.notInOrder value.kindName)

/-- The failure that a status stands for, with a message and details.  The status and the message
are kept as they are given. -/
def ApiError.ofGivenStatus (status message : Value) (details : Keyed Value) :
    Except Misuse ApiError := do
  pure (.build (← ApiKind.ofGivenStatus status) message status details)

/-- A whole number stands for the failure that an answer with that status is. -/
theorem ApiError.ofGivenStatus_int (status : Int) (message : String) :
    ApiError.ofGivenStatus (.int status) (.text message) [] =
      .ok (.ofResponse status message) :=
  rfl

end ReviewGroups
