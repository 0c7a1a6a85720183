/-
Module: ReviewGroups.Proofs.FilterRequest
Purpose: The first request of a listing or a query tells the server the filter, all of it and
  nothing else, and it is sent if nothing keeps it from being sent. The parameters go through three
  hands: they are gathered under their names, written as a query, and put behind the base address,
  which escapes once more. Each is followed by a module of its own; here the three are put together,
  for every filter and every base address without a query. When the request is sent at all is an
  equivalence, with the condition of `Client.CanSend`.
Trusted boundary: none
Main exports: Rest.Search, Search.run, Search.first_request_tells_filter
-/
import ReviewGroups.Proofs.SettledAddress
import ReviewGroups.Proofs.TaskRequest

namespace ReviewGroups

open Url

namespace Http

variable {client : Client} {address base changed : Address}

/-- The base address of a client is settled, and others are appended to it behind the stem of the
address that the client was given. -/
theorem Client.isSettled_base (read : Address.parse client.baseUrl = .ok address)
    (noQuery : address.query = none) (isBase : client.base = .ok base) :
    base.IsSettled ∧ base.stem = address.stem ∧ base.rawPath = base.stem ++ ['/'] := by
  obtain ⟨other, readToo, based⟩ := exists_asBase_of_base isBase
  cases read.symm.trans readToo
  exact (Address.isSettled_of_parse read).rawPath_of_asBase noQuery based

/-- A settled address with the query of gathered values keeps its path, and has them as its query as
they are written. -/
private theorem query_of_withParameters {values : Keyed (List String)} (settled : address.IsSettled)
    (replaced : withParameters address (some values) = .ok changed) :
    changed.path = address.path ∧
      changed.query =
        if values.isEmpty then none
        else some (String.ofList (Form.encode (Form.ungroup values))) := by
  obtain ⟨path, query⟩ := settled.path_of_withQuery (withParameters_some_eq_ok_iff.1 replaced)
  refine ⟨path, query.trans ?_⟩
  unfold writtenQuery
  split
  · rfl
  · rw [Option.map_some, Percent.encode_of_stays fun c => Form.queryStays_of_mem_encode]

end Http

namespace Rest

open Http

/-- What the groups of a server are looked through for. -/
inductive Search where
  | list (filter : ListFilter)
  | query (filter : QueryFilter)
deriving Repr, Inhabited

namespace Search

/-- Carry out a search; what matters here is not what it finds. -/
def run (client : Client) : Search → Exchange Unit
  | .list filter => do
      let _ ← listGroups client filter
      pure ()
  | .query filter => do
      let _ ← queryGroups client filter
      pure ()

/-- The task of a search. -/
def task : Search → Task
  | .list filter => .listGroups filter
  | .query filter => .queryGroups filter

/-- The parameters of the filter of a search. -/
def parameters : Search → List Parameter
  | .list filter => filter.parameters
  | .query filter => filter.parameters

/-- The path of all groups behind a base address consists of segments that stay. -/
theorem buildPath_collection (client : Client) :
    ∃ rest, client.buildPath collectionPath = String.ofList ('/' :: rest) ∧
      rest.head? ≠ some '/' ∧ (∀ c ∈ rest, pathStays c = true) ∧
      ∀ path, IsNormal path → IsNormal (path ++ '/' :: rest) := by
  have plain : ∀ segment ∈ ["a".toList, "groups".toList, []],
      '/' ∉ segment ∧ ¬ IsDots segment := by
    unfold IsDots
    decide
  have starts : collectionPath.toList.head? = some '/' := by decide
  rw [Client.buildPath_of_rooted starts]
  split
  · have stays : "a/groups/".toList.all pathStays = true := by decide
    refine ⟨"a/groups/".toList, by decide, by decide, List.all_eq_true.1 stays, ?_⟩
    intro path normal
    exact isNormal_append_rooted normal plain
  · have stays : "groups/".toList.all pathStays = true := by decide
    refine ⟨"groups/".toList, by decide, by decide, List.all_eq_true.1 stays, ?_⟩
    intro path normal
    have plainToo : ∀ segment ∈ ["groups".toList, []], '/' ∉ segment ∧ ¬ IsDots segment :=
      fun segment present => plain segment (List.mem_cons_of_mem _ present)
    exact isNormal_append_rooted normal plainToo

open Exchange in
/-- What a search sends first is the request of its task. -/
theorem run_startsWith (client : Client) (search : Search) :
    (search.run client).StartsWith (search.task.Starts client) := by
  cases search with
  | list filter =>
      refine StartsWith.bind_isQuiet ?_ fun _ => isQuiet_pure _
      exact (Task.fetch_startsWith client _).bind_isQuiet fun _ => isQuiet_orThrow _
  | query filter =>
      refine StartsWith.bind_isQuiet ?_ fun _ => isQuiet_pure _
      exact (Task.fetch_startsWith client _).bind_isQuiet fun _ => isQuiet_orThrow _

open Exchange in
/-- What a search sends is what the request of its task does. -/
theorem requests_run (client : Client) (search : Search) (network : Network) (wire : Wire) :
    (search.run client network wire).2.requests =
      (send client search.task.intent network wire).2.requests := by
  rw [← search.task.wire_fetch]
  apply congrArg Wire.requests
  cases search with
  | list filter =>
      have listed : (listGroups client filter network wire).2 =
          ((Task.listGroups filter).fetch client network wire).2 :=
        wire_bind_of_isStill fun data => isStill_orThrow _
      exact (wire_bind_of_isStill fun groups => isStill_orThrow (.ok ())).trans listed
  | query filter =>
      have queried : (queryGroups client filter network wire).2 =
          ((Task.queryGroups filter).fetch client network wire).2 :=
        wire_bind_of_isStill fun data => isStill_orThrow _
      exact (wire_bind_of_isStill fun groups => isStill_orThrow (.ok ())).trans queried

/-- The task of a search goes to all groups, with the parameters of its filter, of which those of
one name stand together. -/
theorem intent_task (search : Search) :
    search.task.intent.path = collectionPath ∧
      search.task.intent.givenParameters =
        .items .list (search.parameters.map Parameter.toValue) ∧
      ∃ runs, (Keyed.keys runs).Nodup ∧ search.parameters = Parameter.ofRuns runs := by
  cases search with
  | list filter => exact ⟨rfl, rfl, filter.exists_runs⟩
  | query filter => exact ⟨rfl, rfl, filter.exists_runs⟩

/-- The request that a client makes for a search goes to all groups behind the address of the
client, and its query is read back as the parameters of the filter. -/
theorem address_of_request {client : Client} {address base : Address} {search : Search}
    {request : Request} (read : Address.parse client.baseUrl = .ok address)
    (noQuery : address.query = none) (isBase : client.base = .ok base)
    (made : client.request base search.task.intent = .ok request) :
    request.address.path.toList = address.stem ++ (client.buildPath collectionPath).toList ∧
      Form.decode (request.address.query.getD "").toList =
        search.parameters.map Parameter.written ∧
      (request.address.query = none ↔ search.parameters = []) := by
  obtain ⟨reference, appended, parameters, parsed, append, gathered, replaced⟩ :=
    (Client.makes_of_request made).address
  obtain ⟨asked, given, runs, distinct, grouped⟩ := search.intent_task
  obtain ⟨rest, built, single, clean, normal⟩ := buildPath_collection client
  obtain ⟨values, gather, pairs, none⟩ := Parameter.exists_gather_ofRuns distinct
  rw [← grouped] at gather pairs none
  -- From here on the values are those of the runs, and the address is followed part by part.
  rw [given, gather] at gathered
  cases gathered
  rw [asked, built] at parsed
  obtain ⟨settled, sameStem, raw⟩ := Client.isSettled_base read noQuery isBase
  obtain ⟨relative, written⟩ := Address.rawPath_of_parse_rooted single clean parsed
  obtain ⟨settledToo, path, -⟩ :=
    settled.path_of_append raw relative written single clean (normal _) append
  obtain ⟨samePath, query⟩ := query_of_withParameters settledToo replaced
  refine ⟨?_, ?_, ?_⟩
  · rw [samePath, path, sameStem, built, String.toList_ofList]
  · rw [query, ← pairs]
    split
    next empty =>
      rw [List.isEmpty_iff.1 empty]
      rfl
    next => rw [Option.getD_some, String.toList_ofList, Form.decode_encode]
  · rw [query, ← none]
    split
    next empty => exact iff_of_true rfl (List.isEmpty_iff.1 empty)
    next some => exact iff_of_false (Option.some_ne_none _) fun empty => some (by simp [empty])

/-- A search behind a valid base URL sends something exactly if nothing keeps its request from being
sent. -/
theorem exists_sent_iff_canSend {client : Client} {base : Address} {time : Value}
    (valid : client.HasValidBase base) (patient : client.patience = .ok time) (search : Search)
    (network : Network) (wire : Wire) :
    (∃ first more, (search.run client network wire).2.requests = wire.requests ++ first :: more) ↔
      client.CanSend base search.task.intent := by
  have written : ∃ body, search.task.body.requestBody = .ok body := by
    cases search <;> exact ⟨none, rfl⟩
  obtain ⟨body, isBody⟩ := written
  rw [requests_run, exists_sent_iff valid.isBase patient]
  exact Task.exists_request_iff_canSend valid isBody patient

/-- The first request of a listing or a query goes to all groups behind the base address, and its
query is read back as the parameters of the filter: all of them, in their order, whole numbers in
decimal.  There is no query exactly if there are no parameters.  A request is sent, where the base
URL is valid and there is a time to wait, exactly if the headers of the client can be sent, the
numbers of the filter can be written, and the parts of the URL are not too long. -/
theorem first_request_tells_filter {client : Client} {address : Address}
    (read : Address.parse client.baseUrl = .ok address) (noQuery : address.query = none)
    (search : Search) (network : Network) (wire : Wire) :
    (∀ first more, (search.run client network wire).2.requests = wire.requests ++ first :: more →
        first.address.path.toList = address.stem ++ (client.buildPath collectionPath).toList ∧
          Form.decode (first.address.query.getD "").toList =
            search.parameters.map Parameter.written ∧
          (first.address.query = none ↔ search.parameters = [])) ∧
      ∀ base, client.HasValidBase base → (∃ time, client.patience = .ok time) →
        ((∃ first more,
            (search.run client network wire).2.requests = wire.requests ++ first :: more) ↔
          client.CanSend base search.task.intent) := by
  constructor
  · intro first more sent
    obtain ⟨base, isBase, made⟩ := search.run_startsWith client network wire first more sent
    exact address_of_request read noQuery isBase made
  · rintro base valid ⟨time, patient⟩
    exact exists_sent_iff_canSend valid patient search network wire

/-! ### Samples -/

/-- A filter with signs that mean something in a query, a text that is empty, and a number that is
not sent. -/
def sampleFilter : ListFilter :=
  { options := [.includes, .members]
    projects := ["a&b=c", "", "100% #ü+"]
    groups := []
    visibleToAll := true
    user := some ""
    owned := false
    limit := 25
    start := -1
    substring := none
    suggest := none }

/-- A listing with signs that mean something in a query tells the server all of them. -/
theorem first_request_tells_sampleFilter :
    Address.parse Operation.sampleClient.baseUrl = .ok Operation.sampleBase ∧
      ∃ first,
        ((list sampleFilter).run Operation.sampleClient Operation.silence .fresh).2.requests =
          [first] ∧
        first.address.path = "/r/a/groups/" ∧
        Form.decode (first.address.query.getD "").toList =
          [("o", "INCLUDES"), ("o", "MEMBERS"), ("p", "a&b=c"), ("p", ""), ("p", "100% #ü+"),
            ("visible-to-all", "true"), ("user", ""), ("n", "25")] := by
  have read := Operation.isPlainBase_sample.read
  have one : ((list sampleFilter).run Operation.sampleClient Operation.silence
      .fresh).2.requests.length = 1 := by
    decide +kernel
  obtain ⟨first, sent⟩ := List.length_eq_one_iff.1 one
  obtain ⟨tells, -⟩ :=
    first_request_tells_filter read rfl (list sampleFilter) Operation.silence .fresh
  obtain ⟨path, query, -⟩ := tells first [] sent
  refine ⟨read, first, sent, ?_, ?_⟩
  · apply String.toList_injective
    rw [path]
    decide
  · rw [query]
    decide

end Search

end Rest

end ReviewGroups
