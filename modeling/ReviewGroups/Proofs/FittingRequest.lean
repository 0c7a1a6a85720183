/-
Module: ReviewGroups.Proofs.FittingRequest
Purpose: With a valid base URL, the URL of a request can be built exactly if its parts are not too
  long, and the request is sent exactly if besides that its headers and numbers are in order. A base
  URL is valid if the root behind it can be asked for; whether it names a server that can be worked
  with is found out there once, and any other path behind it has the same server. The conditions are
  equivalences, so they tell what is refused as well.
Trusted boundary: none
Main exports: Client.HasValidBase, Client.Fits, Client.CanSend, Client.buildsUrl_iff_fits,
  Client.exists_request_iff_canSend, exists_sent_iff
-/
import ReviewGroups.Proofs.FittingAddress
import ReviewGroups.Proofs.FormCode
import ReviewGroups.Proofs.SingleSending

namespace ReviewGroups.Http

open Url

/-! ### The query of gathered values -/

private theorem getD_writtenQuery (values : Keyed (List String)) :
    (writtenQuery values).getD [] = Form.encode (Form.ungroup values) := by
  cases values with
  | nil => rfl
  | cons value values => rfl

private theorem queryStays_of_mem_writtenQuery (values : Keyed (List String)) :
    ∀ c ∈ (writtenQuery values).getD [], queryStays c = true := by
  intro c present
  rw [getD_writtenQuery] at present
  exact Form.queryStays_of_mem_encode present

/-! ### Valid base URLs -/

namespace Client

variable {client : Client} {base : Address} {intent : Intent}

/-- The base URL of a client is valid: it is complete, and the root behind it can be asked for,
whether the query there is left alone or taken away. -/
structure HasValidBase (client : Client) (base : Address) : Prop where
  isBase : client.base = .ok base
  absolute : base.isAbsolute = true
  plain : client.BuildsUrl base (Intent.plain "GET" "/")
  bare : client.BuildsUrl base { Intent.plain "GET" "/" with parameters := .dict [] }

/-- The parts of the URL of a request are not too long: the path that is asked for, path and query
behind the base address, and the query that the parameters are written as. -/
structure Fits (client : Client) (base : Address) (intent : Intent) : Prop where
  asked : (client.buildPath intent.path).toList.length ≤ lengthLimit
  target :
    (base.components.withRaw
      (base.rawPath ++ (client.buildPath intent.path).toList.drop 1)).Fits
  query : ∀ values, Parameter.gather intent.givenParameters = .ok (some values) →
    (Form.encode (Form.ungroup values)).length ≤ lengthLimit

/-- Nothing keeps the request of an intent from being sent: the headers can be sent, the numbers can
be written, and the parts of the URL are not too long. -/
structure CanSend (client : Client) (base : Address) (intent : Intent) : Prop where
  headers : ∃ checked, checkHeaders (client.buildHeaders intent.headers) = .ok checked
  numbers : intent.checkWritable = .ok ()
  url : client.Fits base intent

/-- A path that is asked for starts with a single slash, and nothing in it needs an escape. -/
def AsksPlainly (client : Client) (path : String) (rest : List Char) : Prop :=
  client.buildPath path = String.ofList ('/' :: rest) ∧ rest.head? ≠ some '/' ∧
    ∀ c ∈ rest, pathStays c = true

/-- A complete base address is sound. -/
theorem isSound_of_base (isBase : client.base = .ok base) (absolute : base.isAbsolute = true) :
    base.IsSound := by
  have sound {components : Components} {authority : Authority}
      (assembled : Address.assemble components authority = .ok base) : base.IsSound := by
    obtain ⟨schemed, rooted⟩ := Address.isRooted_of_assemble assembled absolute
    exact Address.isSound_of_assemble schemed rooted assembled
  obtain ⟨address, read, based⟩ := exists_asBase_of_base isBase
  unfold Address.asBase at based
  split at based
  · cases based
    exact sound (Address.assemble_of_parse read)
  · rw [Address.withRawPath_eq] at based
    exact sound (Address.assemble_of_rebuild based)

/-- A path that starts with a single slash, and in which nothing needs an escape, is asked for
plainly, also behind the mark for clients with credentials. -/
theorem exists_asksPlainly {path : String} {tail : List Char} (written : path.toList = '/' :: tail)
    (single : tail.head? ≠ some '/') (clean : ∀ c ∈ tail, pathStays c = true) :
    ∃ rest, client.AsksPlainly path rest := by
  have starts : path.toList.head? = some '/' := by rw [written, List.head?_cons]
  unfold AsksPlainly
  rw [buildPath_of_rooted starts]
  split
  · refine ⟨'a' :: '/' :: tail, ?_, by simp, ?_⟩
    · apply String.toList_injective
      simp [written]
    · rw [List.forall_mem_cons, List.forall_mem_cons]
      exact ⟨by decide, by decide, clean⟩
  · exact ⟨tail, by rw [← written, String.ofList_toList], single, clean⟩

/-- Behind a valid base URL the root is an address with a server that can be worked with, and it
stays one with another query. -/
theorem HasValidBase.exists_root (valid : client.HasValidBase base)
    (noHeaders : intent.headers = []) :
    ∃ root appended changed, root.isAbsolute = false ∧ base.append root = .ok appended ∧
      appended.withQuery none = .ok changed ∧ base.components.NamesServer ∧
      appended.components.NamesServer ∧
      (client.NamesHost intent ∨ ∃ host, appended.shownHost = .ok host) ∧
      (client.NamesHost intent ∨ ∃ host, changed.shownHost = .ok host) := by
  obtain ⟨root, appended, given, alone, read, append, gathered, replaced, host⟩ := valid.plain
  obtain ⟨same, appendedToo, givenToo, changed, readToo, appendToo, gatheredToo, replacedToo,
    hostToo⟩ := valid.bare
  obtain ⟨rest, built, single, clean⟩ : ∃ rest, client.AsksPlainly "/" rest :=
    exists_asksPlainly rfl (by simp) (by simp)
  cases read.symm.trans readToo
  cases append.symm.trans appendToo
  cases gathered
  cases gatheredToo
  cases replaced
  change Address.parse (client.buildPath "/") = .ok root at read
  rw [built] at read
  obtain ⟨relative, written⟩ := Address.rawPath_of_parse_rooted single clean read
  have sound := isSound_of_base valid.isBase valid.absolute
  obtain ⟨soundToo, short⟩ := sound.append relative written single clean append
  have server := (Address.exists_append_iff sound relative written single clean).1 ⟨_, append⟩
  have changedQuery : appended.withQuery none = .ok changed :=
    withParameters_some_eq_ok_iff.1 replacedToo
  have nothing : ∀ c ∈ (none : Option (List Char)).getD [], queryStays c = true := by simp
  have serverToo := (Address.exists_withQuery_iff soundToo short nothing).1 ⟨_, changedQuery⟩
  have named : client.NamesHost intent ↔ client.NamesHost (Intent.plain "GET" "/") := by
    rw [NamesHost, noHeaders]
    rfl
  rw [named]
  exact ⟨root, appended, changed, relative, append, changedQuery, server.1, serverToo.1, host,
    hostToo⟩

/-! ### Parts that are not too long -/

/-- The URL of a request that is built has parts that are not too long. -/
theorem fits_of_buildsUrl (sound : base.IsSound) {rest : List Char}
    (asks : client.AsksPlainly intent.path rest) (builds : client.BuildsUrl base intent) :
    client.Fits base intent := by
  obtain ⟨reference, appended, parameters, address, read, append, gathered, replaced, -⟩ := builds
  obtain ⟨built, single, clean⟩ := asks
  rw [built] at read
  obtain ⟨relative, written⟩ := Address.rawPath_of_parse_rooted single clean read
  obtain ⟨soundToo, short⟩ := sound.append relative written single clean append
  constructor
  case asked =>
      rw [built, String.toList_ofList]
      exact (Address.exists_parse_rooted_iff single clean).1 ⟨_, read⟩
  case target =>
      rw [built, String.toList_ofList]
      exact ((Address.exists_append_iff sound relative written single clean).1 ⟨_, append⟩).2
  case query =>
      intro values given
      cases gathered.symm.trans given
      have changed := withParameters_some_eq_ok_iff.1 replaced
      have fits := (Address.exists_withQuery_iff soundToo short
        (queryStays_of_mem_writtenQuery values)).1 ⟨_, changed⟩
      rw [← getD_writtenQuery]
      exact fits.2

/-- Behind a valid base URL, the URL of a request with a plain path can be built exactly if its
parts are not too long. -/
theorem buildsUrl_iff_fits (valid : client.HasValidBase base) {rest : List Char}
    {parameters : Option (Keyed (List String))} (asks : client.AsksPlainly intent.path rest)
    (noHeaders : intent.headers = [])
    (gathered : Parameter.gather intent.givenParameters = .ok parameters) :
    client.BuildsUrl base intent ↔ client.Fits base intent := by
  have sound := isSound_of_base valid.isBase valid.absolute
  refine ⟨fits_of_buildsUrl sound asks, fun fits => ?_⟩
  obtain ⟨root, rootAppended, rootChanged, rootRelative, rootAppend, rootQuery, server, serverToo,
    host, hostToo⟩ := valid.exists_root noHeaders
  obtain ⟨built, single, clean⟩ := asks
  obtain ⟨asked, target, query⟩ := fits
  rw [built, String.toList_ofList] at asked target
  obtain ⟨reference, read⟩ := (Address.exists_parse_rooted_iff single clean).2 asked
  obtain ⟨relative, written⟩ := Address.rawPath_of_parse_rooted single clean read
  obtain ⟨appended, append⟩ :=
    (Address.exists_append_iff sound relative written single clean).2 ⟨server, target⟩
  -- What the root showed of the server holds of this address too: they differ in path and query.
  have shares := Address.sharesServer_of_append relative rootRelative append rootAppend
  rw [← built] at read
  cases parameters with
  | none =>
      refine ⟨reference, appended, none, appended, read, append, gathered, rfl, ?_⟩
      rwa [shares.shownHost]
  | some values =>
      obtain ⟨soundToo, short⟩ := sound.append relative written single clean append
      have fits : ((writtenQuery values).getD []).length ≤ lengthLimit := by
        rw [getD_writtenQuery]
        exact query values gathered
      obtain ⟨changed, replaced⟩ := (Address.exists_withQuery_iff soundToo short
        (queryStays_of_mem_writtenQuery values)).2 ⟨shares.namesServer_iff.2 serverToo, fits⟩
      refine ⟨reference, appended, some values, changed, read, append, gathered,
        withParameters_some_eq_ok_iff.2 replaced, ?_⟩
      rwa [(shares.withQuery replaced rootQuery).shownHost]

/-- Behind a valid base URL, a client that has a time to wait can make a request with a plain path
and a body that can be written exactly if nothing keeps that from being sent. -/
theorem exists_request_iff_canSend (valid : client.HasValidBase base) {rest : List Char}
    {parameters : Option (Keyed (List String))} {method : String} {body : Option Json}
    {time : Value} (asks : client.AsksPlainly intent.path rest) (noHeaders : intent.headers = [])
    (gathered : Parameter.gather intent.givenParameters = .ok parameters)
    (isMethod : upperMethod intent.method = .ok method)
    (isBody : intent.body.requestBody = .ok body) (patient : client.patience = .ok time) :
    (∃ request, client.request base intent = .ok request) ↔ client.CanSend base intent := by
  have fits := buildsUrl_iff_fits valid asks noHeaders gathered
  constructor
  · rintro ⟨request, made⟩
    obtain ⟨makes, heads⟩ := request_eq_ok_iff.1 made
    obtain ⟨checked, named, body, isChecked, -⟩ := heads.headers
    exact ⟨⟨checked, isChecked⟩, makes.writable, fits.1 (buildsUrl_of_request made)⟩
  · intro can
    obtain ⟨checked, isChecked⟩ := can.headers
    exact (exists_request_iff can.numbers isChecked isMethod isBody patient).2 (fits.2 can.url)

end Client

/-- A client sends something for an intent exactly if it can make the request of that. -/
theorem exists_sent_iff {client : Client} {base : Address} {intent : Intent} {time : Value}
    (isBase : client.base = .ok base) (patient : client.patience = .ok time) (network : Network)
    (wire : Wire) :
    (∃ first more,
        (send client intent network wire).2.requests = wire.requests ++ first :: more) ↔
      ∃ request, client.request base intent = .ok request := by
  cases made : client.request base intent with
  | ok request =>
      obtain ⟨hops, outcome, delivers⟩ := exists_delivers network redirectLimit wire.replies request
      obtain ⟨reply, more, rfl⟩ := delivers.exists_cons
      obtain ⟨ended, sent, exchanged⟩ := send_of_delivers isBase made delivers
      rw [sent]
      exact iff_of_true ⟨request, more.map Prod.fst, exchanged.requests⟩ ⟨request, rfl⟩
  | error failure =>
      obtain ⟨ended, sent, quiet⟩ := exists_send_of_error patient isBase made network wire
      rw [sent, quiet]
      apply iff_of_false
      · rintro ⟨first, more, grown⟩
        simp at grown
      · rintro ⟨request, ⟨⟩⟩

end ReviewGroups.Http
