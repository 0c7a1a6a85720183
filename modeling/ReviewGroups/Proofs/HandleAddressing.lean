/-
Module: ReviewGroups.Proofs.HandleAddressing
Purpose: Where the requests of a handle go that was looked up or created, and for which identifiers
  that is the group that the server described. Rests on `GroupAddressing` for the way from an
  identifier to a request, and follows how the identifier came into the handle: from the answer of
  the server, which has it escaped already.
Trusted boundary: none
Main exports: Lookup, Lookup.run, Lookup.Gives, Lookup.id_of_gives, Rest.addresses_unique,
  Handle.first_request_addresses_described_iff
-/
import ReviewGroups.Facade
import ReviewGroups.Proofs.DeliveryRun
import ReviewGroups.Proofs.GroupAddressing
import ReviewGroups.Proofs.PlainText
import ReviewGroups.Proofs.Reading

namespace ReviewGroups

open Http Rest Text Url

/-! ### How handles come about -/

/-- The two ways to a handle: to look a group up, or to create one. -/
inductive Lookup where
  | id (identifier : Value)
  | create (group : Value)

/-- The identifier of a group that is described is the text under its name. -/
theorem Json.DescribesGroup.member?_id {data : Json} {group : Group} {id : String}
    (describes : data.DescribesGroup group) (known : group.id = some id) :
    data.member? "id" = some (.text id) := by
  cases describes with
  | @object members group isId =>
      change Keyed.get? "id" members = _
      rw [known] at isId
      generalize Keyed.get? "id" members = found at isId
      cases isId with
      | given _ isText =>
          cases isText
          rfl

/-- A handle is on the group that it was made of. -/
theorem Handle.group_of_ofGroup {group : Group} {handle : Handle}
    (made : ofGroup group = .ok handle) : handle.group = group := by
  unfold ofGroup at made
  split at made
  next => cases made
  next =>
    split at made
    next => cases made
    next =>
      cases made
      rfl

/-- A group with an identifier that is not empty has a handle. -/
theorem Handle.ofGroup_of_known {group : Group} {id : String} (known : group.id = some id)
    (notEmpty : id ≠ "") : ofGroup group = .ok ⟨group, id, known, notEmpty⟩ := by
  unfold ofGroup
  split
  next none =>
    rw [known] at none
    cases none
  next other knownToo =>
    cases known.symm.trans knownToo
    exact dif_neg notEmpty

namespace Lookup

/-- Look a group up or create it, over the network. -/
def run (client : Client) : Lookup → Exchange Handle
  | .id identifier => (Facade.full (Rest.transport client)).id identifier
  | .create group => (Facade.full (Rest.transport client)).create group

/-- The call that the group of the handle comes from. -/
def reading : Lookup → Reading Group
  | .id identifier => .resolve identifier
  | .create group => .create (Facade.creation group)

/-- The server answers a lookup with success and with a text that writes a JSON value behind the
guard, and the lookup gives a handle. -/
def Gives (client : Client) (lookup : Lookup) (data : Json) (handle : Handle) : Prop :=
  ∃ text network wire ended, lookup.reading.IsAnswered client text network wire ∧
    Json.parse (dropGuard text) = .ok data ∧
    lookup.run client network wire = (.ok handle, ended)

variable {client : Client} {lookup : Lookup} {network : Network} {wire ended : Wire}
  {handle : Handle} {data : Json}

/-- A lookup makes the handle of the group that its call answers. -/
theorem run_eq (client : Client) (lookup : Lookup) :
    lookup.run client =
      lookup.reading.run client >>= fun group => Failure.orThrow (Handle.ofGroup group) := by
  funext network wire
  cases lookup with
  | id identifier => exact Exchange.bind_of_ok rfl
  | create input => exact Exchange.bind_of_ok rfl

/-- A handle that is given is that of the group that the call answers. -/
theorem group_of_run_eq_ok (given : lookup.run client network wire = (.ok handle, ended)) :
    (lookup.reading.run client network wire).1 = .ok handle.group := by
  rw [run_eq] at given
  obtain ⟨group, middle, answered, given⟩ := Exchange.exists_of_bind_eq_ok given
  rw [Exchange.orThrow_eq] at given
  rw [Handle.group_of_ofGroup (congrArg Prod.fst given)]
  exact congrArg Prod.fst answered

/-- A group that is answered with an identifier gives a handle. -/
theorem exists_handle_of_group {group : Group} {id : String} (known : group.id = some id)
    (notEmpty : id ≠ "") (answered : (lookup.reading.run client network wire).1 = .ok group) :
    ∃ handle ended, lookup.run client network wire = (.ok handle, ended) := by
  rcases reached : lookup.reading.run client network wire with ⟨outcome, middle⟩
  rw [reached] at answered
  cases answered
  rw [run_eq, Exchange.bind_of_ok reached, Handle.ofGroup_of_known known notEmpty]
  exact ⟨_, _, Exchange.orThrow_eq _⟩

/-- A handle that is given has the identifier of the JSON value that the server answered with. -/
theorem id_of_gives (gives : lookup.Gives client data handle) :
    data.member? "id" = some (.text handle.id) := by
  obtain ⟨text, network, wire, ended, ⟨task, sent, made, answered⟩, parsed, given⟩ := gives
  have taken := group_of_run_eq_ok given
  rw [Reading.run_of_isAnswered made answered] at taken
  obtain ⟨value, decoded, taken⟩ := Result.bind_eq_ok_iff.1 taken
  have reads := Reading.take_eq_ok_iff.1 taken
  have parsedToo := (Reading.decode_eq_ok_iff made reads).1 decoded
  rw [parsed] at parsedToo
  cases parsedToo
  have describes : data.DescribesGroup handle.group := by
    cases lookup with
    | id identifier => exact reads.1
    | create group => exact reads.1
  exact describes.member?_id handle.known

end Lookup

namespace Rest

variable {client : Client} {base : Address} {operation : Operation} {id other path : String}

/-- A path goes to one identifier at most. -/
theorem addresses_unique (here : Addresses client base operation id path)
    (there : Addresses client base operation other path) : id = other := by
  obtain ⟨segment, -, -, decoded, whole⟩ := here
  obtain ⟨segmentToo, -, -, decodedToo, wholeToo⟩ := there
  rw [wholeToo] at whole
  have same := List.append_cancel_left (List.append_cancel_right whole)
  rw [same, decoded] at decodedToo
  exact String.toList_injective decodedToo

private theorem isDots_toList_iff : IsDots id.toList ↔ id = "." ∨ id = ".." := by
  have dot : ['.'] = ".".toList := by decide
  have dots : ['.', '.'] = "..".toList := by decide
  rw [IsDots, dots, dot, String.toList_inj, String.toList_inj]

/-- The path that an identifier leads to goes to that identifier and to no other one, and to none at
all for the segments of dots. -/
theorem addresses_iff_eq (plain : Address.IsPlainBase client.baseUrl base) (some : id ≠ "")
    (written : path.toList =
      Percent.encode pathStays (normalizePath (base.path.toList ++
        pathBelow client operation (encodeIdentifier id).toList))) :
    Addresses client base operation other path ↔ id = other ∧ ¬ IsDots id.toList := by
  by_cases dots : IsDots id.toList
  · exact iff_of_false (not_addresses_of_isDots plain dots written) fun same => same.2 dots
  · have here := addresses_of_not_isDots plain some dots written
    constructor
    · intro there
      exact ⟨addresses_unique here there, dots⟩
    · rintro ⟨rfl, -⟩
      exact here

private theorem encodeIdentifier_eq_self_iff :
    encodeIdentifier id = id ↔ ∀ c ∈ id.toList, Percent.isUnreserved c = true := by
  rw [← Percent.encode_eq_self_iff, ← toList_encodeIdentifier]
  exact String.toList_inj.symm

end Rest

namespace Handle

theorem identifier_call (handle : Handle) (operation : Operation) :
    (handle.call operation).identifier = .text handle.id := by
  cases operation <;> rfl

/-- The first request of a handle goes to the group that the server described exactly if the
identifier of that group consists of characters that need no escape, and is not one of the segments
of dots. -/
theorem first_request_addresses_described_iff {url : String} {username password : Option String}
    {timeout : Value} {headers : Keyed Value} {base : Address}
    (plain : Address.IsPlainBase (Client.new url username password timeout headers).baseUrl base)
    {lookup : Lookup} {data : Json} {handle : Handle} {id : String}
    (gives : lookup.Gives (Client.new url username password timeout headers) data handle)
    (described : data.member? "id" = some (.text (encodeIdentifier id)))
    (operation : Handle.Operation) (network : Network) (wire : Wire) {first : Request}
    {more : List Request}
    (sent :
      (handle.run (Rest.transport (Client.new url username password timeout headers)) operation
        network wire).2.requests = wire.requests ++ first :: more) :
    Addresses (Client.new url username password timeout headers) base
        (.perform (handle.call operation)) id first.address.path ↔
      (∀ c ∈ id.toList, Percent.isUnreserved c = true) ∧ id ≠ "." ∧ id ≠ ".." := by
  have noSlash := getLast?_dropTrailingSlashes url
  -- The handle has the escaped identifier, and escapes it once more for its requests: they go to
  -- the group exactly if there is nothing to escape.
  have same : encodeIdentifier id = handle.id := by
    have known := described.symm.trans (Lookup.id_of_gives gives)
    exact Json.text.inj (Option.some.inj known)
  obtain ⟨task, (made : (Rest.Operation.perform (handle.call operation)).task = .ok task),
    starts⟩ := perform_startsWith _ _ network wire first more sent
  have identified : (Rest.Operation.perform (handle.call operation)).identifier? =
      some handle.id := by
    change (handle.call operation).identifier.text? = _
    rw [identifier_call]
    rfl
  have written := path_of_starts plain noSlash made identified starts
  rw [addresses_iff_eq plain handle.nonempty written, ← encodeIdentifier_eq_self_iff, same,
    isDots_toList_iff, not_or]
  constructor
  · rintro ⟨rfl, noDots⟩
    exact ⟨rfl, noDots⟩
  · rintro ⟨rfl, noDots⟩
    exact ⟨rfl, noDots⟩

end Handle

/-! ### Samples -/

/-- A response with success that brings a text, in UTF-8. -/
def Http.Response.ofText (text : String) : Response := ⟨200, [], Utf8.encode text.toList⟩

/-- A text that is brought is read as it is. -/
theorem Http.Response.text_ofText (text : String) : (ofText text).text = .ok text := by
  have written : (ofText text).body = Utf8.encode text.toList := rfl
  have read : Charset.utf8.decode (Utf8.encode text.toList) = .ok text.toList :=
    congrArg Except.ok (Utf8.decodeReplacing_encode text.toList)
  unfold Response.text
  rw [written]
  split
  next none =>
    have same : Utf8.encode text.toList = Utf8.encode [] := List.isEmpty_iff.1 none
    have empty : text.toList = [] := by
      rw [← Utf8.decodeReplacing_encode text.toList, same, Utf8.decodeReplacing_encode]
    rw [String.toList_eq_nil_iff.1 empty]
  next =>
    have charset : (ofText text).charset = .ok .utf8 := rfl
    rw [charset]
    simp only [read, String.ofList_toList]

/-- A client that is answered with a text whatever it sends has it as its answer. -/
theorem Http.send_ofText {client : Client} {intent : Intent} {base : Address} {request : Request}
    (isBase : client.base = .ok base) (made : client.request base intent = .ok request)
    (named : namesScheme request.address = true) (text : String) (wire : Wire) :
    ∃ ended, send client intent (fun _ => .response (.ofText text)) wire =
      (.ok (.ofText text), ended) := by
  have last : nextRequest? request (.ofText text) = .ok none := by
    simp [nextRequest?, named, Response.location?, Response.ofText]
  have delivers : Delivers (fun _ => .response (.ofText text)) redirectLimit wire.replies request
      [(request, .response (.ofText text))] (.answered (.ofText text)) := .final rfl last
  obtain ⟨ended, sent, -⟩ := send_of_delivers isBase made delivers
  rw [Outcome.report_eq_ok_iff.2 ⟨rfl, rfl⟩] at sent
  exact ⟨ended, sent⟩

/-- A network that answers every request with success and with a text. -/
def Rest.answering (text : String) : Network := fun _ => .response (.ofText text)

/-- A task whose request the client without credentials can make is answered with any text. -/
theorem Rest.Task.exists_isAnswered_answering {task : Task}
    (seen : ((Operation.anonymousClient.base >>= fun base =>
      Operation.anonymousClient.request base task.intent).toOption.any
        fun request => namesScheme request.address) = true) (text : String) :
    ∃ sent, task.IsAnswered Operation.anonymousClient text (answering text) .fresh sent := by
  obtain ⟨request, answered, named⟩ := (Option.any_eq_true _ _).1 seen
  obtain ⟨base, isBase, made⟩ := Result.bind_eq_ok_iff.1 (Result.eq_ok_of_toOption answered)
  obtain ⟨ended, sent⟩ := send_ofText isBase made named text .fresh
  exact ⟨ended, _, sent, Response.text_ofText _⟩

namespace Lookup

open Rest.Operation (anonymousClient)

/-- The search for a group. -/
def sampleSearch : Lookup := .id (.text "x")

/-- The text of a group that has an identifier and nothing else. -/
def sampleText (id : String) : String :=
  String.ofList
    ('\x7b' :: '"' :: ("id".toList ++ '"' :: ':' :: '"' :: (id.toList ++ ['"', '\x7d'])))

private theorem isPlain_of_isUnreserved {c : Char} (unreserved : Percent.isUnreserved c = true) :
    Json.IsPlain c := by
  have plain : ∀ c : Char, c.toNat < 0x80 → Percent.isUnreserved c = true → Json.IsPlain c :=
    Text.forall_ascii (by unfold Json.IsPlain; decide)
  exact plain c (Percent.toNat_lt_of_isUnreserved unreserved) unreserved

private theorem parse_sampleText {id : String} (plain : ∀ c ∈ id.toList, Json.IsPlain c) :
    Json.parse (dropGuard (sampleText id)) = .ok (.object [("id", .text id)]) := by
  have unguarded : dropGuard (sampleText id) = sampleText id := by
    unfold dropGuard sampleText
    rw [String.toList_ofList]
    rfl
  have named : ∀ c ∈ "id".toList, Json.IsPlain c := by
    intro c inside
    apply isPlain_of_isUnreserved
    exact List.all_eq_true.1 (by decide) c inside
  rw [unguarded, sampleText, Json.parse_singleText named plain, String.ofList_toList,
    String.ofList_toList]

/-- The object with an identifier describes a group with that identifier. -/
theorem describesGroup_sample (id : String) :
    ∃ group, (Json.object [("id", .text id)]).DescribesGroup group ∧ group.id = some id := by
  refine ⟨{ (default : Group) with id := some id }, ?_, rfl⟩
  constructor
  case id => exact .given Json.noConfusion (.text id)
  all_goals exact .missing

/-- The sample text of an identifier that is escaped is answered to the search, and it gives a
handle on the group with that identifier. -/
theorem exists_gives {id : String} (notEmpty : id ≠ "") (plain : ∀ c ∈ id.toList, Json.IsPlain c) :
    ∃ handle, sampleSearch.Gives anonymousClient (.object [("id", .text id)]) handle := by
  obtain ⟨sent, answered⟩ : ∃ sent, (Task.resolve "x" "x").IsAnswered anonymousClient
      (sampleText id) (answering (sampleText id)) .fresh sent :=
    Task.exists_isAnswered_answering (by decide +kernel) (sampleText id)
  obtain ⟨group, describes, known⟩ := describesGroup_sample id
  have reads : sampleSearch.reading.Reads (.object [("id", .text id)]) group :=
    ⟨describes, id, known, notEmpty⟩
  have parsed := parse_sampleText plain
  have taken : (sampleSearch.reading.run anonymousClient (answering (sampleText id)) .fresh).1 =
      .ok group := by
    rw [Reading.run_of_isAnswered rfl answered]
    exact Result.bind_eq_ok_iff.2 ⟨_, (Reading.decode_eq_ok_iff rfl reads).2 parsed,
      Reading.take_eq_ok_iff.2 reads⟩
  obtain ⟨handle, ended, given⟩ := exists_handle_of_group known notEmpty taken
  exact ⟨handle, sampleText id, _, .fresh, ended, ⟨_, sent, rfl, answered⟩, parsed, given⟩

/-- Every identifier but the empty one has a handle: the server answers with its escaped form. -/
theorem exists_gives_encoded (id : String) (notEmpty : id ≠ "") :
    ∃ handle, sampleSearch.Gives anonymousClient
      (.object [("id", .text (encodeIdentifier id))]) handle := by
  apply exists_gives
  · intro empty
    exact toList_encodeIdentifier_ne_nil notEmpty (String.toList_eq_nil_iff.2 empty)
  · intro c present
    rcases mem_encodeIdentifier present with rfl | unreserved
    · unfold Json.IsPlain
      decide
    · exact isPlain_of_isUnreserved unreserved

end Lookup

namespace Handle

open Rest.Operation (anonymousClient anonymousBase isPlainBase_anonymous silence)

private theorem run_index {handle : Handle} {id : String}
    (gives : Lookup.sampleSearch.Gives anonymousClient (.object [("id", .text id)]) handle) :
    handle.run (Rest.transport anonymousClient) .index =
      Rest.perform anonymousClient (.index (.text id)) := by
  have same := Lookup.id_of_gives gives
  change some (Json.text id) = _ at same
  cases same
  rfl

/-- A handle on a group whose identifier needs no escape indexes that group. -/
theorem first_request_addresses_abc :
    Address.IsPlainBase anonymousClient.baseUrl anonymousBase ∧
      ∃ handle first,
        Lookup.sampleSearch.Gives anonymousClient
          (.object [("id", .text (encodeIdentifier "abc"))]) handle ∧
        (handle.run (Rest.transport anonymousClient) .index silence .fresh).2.requests =
          [first] ∧
        Addresses anonymousClient anonymousBase (.perform (handle.call .index)) "abc"
          first.address.path := by
  obtain ⟨handle, gives⟩ := Lookup.exists_gives_encoded "abc" (by decide)
  have paths : ((Rest.perform anonymousClient (.index (.text (encodeIdentifier "abc"))) silence
      .fresh).2.requests.map fun request => request.address.path) = ["/groups/abc/index"] := by
    decide +kernel
  rw [← run_index gives] at paths
  obtain ⟨first, sent, -⟩ := List.map_eq_singleton_iff.1 paths
  refine ⟨isPlainBase_anonymous, handle, first, gives, sent, ?_⟩
  exact (first_request_addresses_described_iff isPlainBase_anonymous gives rfl .index silence .fresh
    sent).2 ⟨List.all_eq_true.1 (by decide), by decide, by decide⟩

/-- A handle on a group whose identifier has a colon in it does not index that group: the escape of
the colon is escaped once more. -/
theorem request_escaped_twice :
    ∃ handle first,
      Lookup.sampleSearch.Gives anonymousClient
        (.object [("id", .text (encodeIdentifier "ldap:admins"))]) handle ∧
      (handle.run (Rest.transport anonymousClient) .index silence .fresh).2.requests = [first] ∧
      first.address.path = "/groups/ldap%253Aadmins/index" ∧
      ¬ Addresses anonymousClient anonymousBase (.perform (handle.call .index)) "ldap:admins"
        first.address.path := by
  obtain ⟨handle, gives⟩ := Lookup.exists_gives_encoded "ldap:admins" (by decide)
  have paths : ((Rest.perform anonymousClient (.index (.text (encodeIdentifier "ldap:admins")))
      silence .fresh).2.requests.map fun request => request.address.path) =
      ["/groups/ldap%253Aadmins/index"] := by
    decide +kernel
  rw [← run_index gives] at paths
  obtain ⟨first, sent, path⟩ := List.map_eq_singleton_iff.1 paths
  refine ⟨handle, first, gives, sent, path, ?_⟩
  rintro ⟨segment, -, -, decoded, whole⟩
  have front : anonymousBase.path.toList ++ (mark anonymousClient ++ "/groups/").toList =
      "/groups/".toList := by decide
  have back : (Rest.Operation.perform (handle.call .index)).suffix.toList = "/index".toList := rfl
  have parts : "/groups/ldap%253Aadmins/index".toList =
      "/groups/".toList ++ (encodeIdentifier "ldap%3Aadmins").toList ++ "/index".toList := by
    decide
  rw [path, front, back, parts] at whole
  have once := List.append_cancel_left (List.append_cancel_right whole)
  rw [← once, decode_encodeIdentifier] at decoded
  exact absurd decoded (by decide)

end Handle

end ReviewGroups
