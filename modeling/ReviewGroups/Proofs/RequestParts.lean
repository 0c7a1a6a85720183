/-
Module: ReviewGroups.Proofs.RequestParts
Purpose: What the request that a client makes consists of, part by part. A request is made in one
  long computation that can stop at ten places; `request_eq_ok_iff` takes it apart once, into what
  it is made of (`Makes`) and what its headers are (`Heads`), and modules that ask what a request
  consists of take it from there.
Trusted boundary: none
Main exports: writtenQuery, withParameters_some_eq_ok_iff, Client.Makes, Client.Heads,
  Client.buildPath_of_rooted, Client.exists_asBase_of_base, Client.request_eq_ok_iff,
  Client.makes_of_request
-/
import ReviewGroups.Http.Client
import ReviewGroups.Proofs.Result

namespace ReviewGroups.Http

open Url

/-- A result that is there after a misuse would be reported was there before. -/
theorem eq_ok_of_ofMisuse {α : Type} {result : Except Misuse α} {value : α}
    (answered : Failure.ofMisuse result = .ok value) : result = .ok value := by
  cases result with
  | error misuse => cases answered
  | ok other =>
      cases answered
      rfl

/-- The query that gathered values are written as; without any there is none. -/
def writtenQuery (values : Keyed (List String)) : Option (List Char) :=
  if values.isEmpty then none else some (Form.encode (Form.ungroup values))

/-- To put parameters behind an address is to give it the query of their values. -/
theorem withParameters_some_eq_ok_iff {address changed : Address} {values : Keyed (List String)} :
    withParameters address (some values) = .ok changed ↔
      address.withQuery (writtenQuery values) = .ok changed := by
  unfold withParameters writtenQuery
  dsimp only
  cases address.withQuery (if values.isEmpty then none else
    some (Form.encode (Form.ungroup values))) <;> simp

namespace Client

/-- What a request is made of, if its numbers can be written: the path that the client makes of the
one that is asked for, appended to the base address, with the parameters; the method in upper case;
the text of the body; and the time to wait. -/
structure Makes (client : Client) (base : Address) (intent : Intent) (request : Request) :
    Prop where
  writable : intent.checkWritable = .ok ()
  address : ∃ reference appended parameters,
    Address.parse (client.buildPath intent.path) = .ok reference ∧
      base.append reference = .ok appended ∧
      Parameter.gather intent.givenParameters = .ok parameters ∧
      withParameters appended parameters = .ok request.address
  method : upperMethod intent.method = .ok request.method
  body : ∃ body, intent.body.requestBody = .ok body ∧
    request.body = (body.map (Json.render compact)).getD ""
  patience : client.patience = .ok request.timeout

/-- The headers with the one that proves who asks, if there are credentials for an address. -/
def sign (client : Client) (address : Address) (headers : List Header) : List Header :=
  match client.effectiveCredentials address with
  | some credentials => Header.set "Authorization" (basicAuthorization credentials) headers
  | none => headers

/-- What the headers of a request are made of: those of the client and of the call, what the address
and the body need beside them, and the proof of who asks. -/
structure Heads (client : Client) (intent : Intent) (request : Request) : Prop where
  headers : ∃ checked named body,
    checkHeaders (client.buildHeaders intent.headers) = .ok checked ∧
      nameHost request.address checked = .ok named ∧
      intent.body.requestBody = .ok body ∧
      request.headers = client.sign request.address
        (describeBody request.method (body.map (Json.render compact)) named)

variable {client : Client} {base : Address} {intent : Intent} {request : Request}

/-- Where the numbers can be written, there is a line for the log. -/
theorem exists_logMessage (writable : intent.checkWritable = .ok ()) (url : String) :
    ∃ line, intent.logMessage url = .ok line := by
  unfold Intent.logMessage
  rw [writable]
  exact ⟨_, rfl⟩

/-- Where the numbers cannot be written, there is neither a line for the log nor a request. -/
theorem refused_of_unwritable {misuse : Misuse} (unwritable : intent.checkWritable = .error misuse)
    (url : String) :
    intent.logMessage url = .error misuse ∧
      client.request base intent = .error (.misuse misuse) := by
  unfold Intent.logMessage Client.request
  rw [unwritable]
  exact ⟨rfl, rfl⟩

/-- A path that starts with a slash is asked for as it is, or behind the mark for clients with
credentials. -/
theorem buildPath_of_rooted {path : String} (starts : path.toList.head? = some '/') :
    client.buildPath path = if client.isAuthenticated then "/a" ++ path else path := by
  unfold buildPath
  rw [if_pos starts]

/-- The base address of a client is what others are appended to behind the address that it was
given. -/
theorem exists_asBase_of_base (isBase : client.base = .ok base) :
    ∃ address, Address.parse client.baseUrl = .ok address ∧ address.asBase = .ok base := by
  unfold Client.base at isBase
  split at isBase
  next other based =>
    cases isBase
    exact Result.bind_eq_ok_iff.1 based
  next => cases isBase

/-- A client makes a request exactly if that is made of its parts, headers included. -/
theorem request_eq_ok_iff :
    client.request base intent = .ok request ↔
      client.Makes base intent request ∧ client.Heads intent request := by
  constructor
  · intro made
    unfold Client.request at made
    obtain ⟨⟨⟩, writable, made⟩ := Result.bind_eq_ok_iff.1 made
    split at made
    next reference read =>
      simp only [pure_bind] at made
      split at made
      next appended append =>
        obtain ⟨headers, checked, made⟩ := Result.bind_eq_ok_iff.1 made
        obtain ⟨parameters, gathered, made⟩ := Result.bind_eq_ok_iff.1 made
        obtain ⟨method, isMethod, made⟩ := Result.bind_eq_ok_iff.1 made
        obtain ⟨address, replaced, made⟩ := Result.bind_eq_ok_iff.1 made
        obtain ⟨body, isBody, made⟩ := Result.bind_eq_ok_iff.1 made
        obtain ⟨named, hosted, made⟩ := Result.bind_eq_ok_iff.1 made
        obtain ⟨time, patient, made⟩ := Result.bind_eq_ok_iff.1 made
        cases made
        exact
          ⟨{ writable := eq_ok_of_ofMisuse writable
             address := ⟨reference, appended, parameters, read, append,
               eq_ok_of_ofMisuse gathered, replaced⟩
             method := eq_ok_of_ofMisuse isMethod
             body := ⟨body, eq_ok_of_ofMisuse isBody, rfl⟩
             patience := patient },
            ⟨headers, named, body, eq_ok_of_ofMisuse checked, hosted, eq_ok_of_ofMisuse isBody,
              rfl⟩⟩
      next => cases made
    next => cases made
  · rintro ⟨makes, heads⟩
    obtain ⟨reference, appended, parameters, read, append, gathered, replaced⟩ := makes.address
    obtain ⟨body, isBody, written⟩ := makes.body
    obtain ⟨headers, named, sameBody, checked, hosted, isSame, signed⟩ := heads.headers
    cases isBody.symm.trans isSame
    have whole : Request.mk request.method request.address
        (client.sign request.address
          (describeBody request.method (body.map (Json.render compact)) named))
        ((body.map (Json.render compact)).getD "") request.timeout = request := by
      rw [← signed, ← written]
    rw [← congrArg Except.ok whole]
    simp only [Client.request, makes.writable, read, append, checked, gathered, makes.method,
      replaced, isBody, hosted, makes.patience, Failure.ofMisuse, pure_bind, Result.ok_bind]
    rfl

/-- The request that a client makes is made of its parts. -/
theorem makes_of_request (made : client.request base intent = .ok request) :
    client.Makes base intent request :=
  (request_eq_ok_iff.1 made).1

end Client

end ReviewGroups.Http
