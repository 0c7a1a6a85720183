/-
Module: ReviewGroups.Http.Delivery
Purpose: Sending a request: redirects are followed, responses without success are failures, bodies
  are decoded.
Trusted boundary: none
Main exports: redirectLimit, nextRequest?, deliver, connect, send, decodeJson, getJson, putJson,
  postJson, delete
-/
import ReviewGroups.Http.Exchange
import ReviewGroups.Http.Redirect
import ReviewGroups.Json.Reader

namespace ReviewGroups.Http

/-- The most redirects that are followed. -/
def redirectLimit : Nat := 20

/-- The failure after too many redirects. -/
def tooManyRedirects : Failure :=
  NetworkFault.other.failure "Exceeded maximum allowed redirects."

/-- Without its fragment, an address names the kind of its network before its first colon or
slash. -/
def namesScheme (address : Url.Address) : Bool :=
  let cs := { address with fragment := none }.render.toList
  let scheme := cs.takeWhile fun c => c != '/' && c != ':'
  !scheme.isEmpty && (cs.drop scheme.length).head? == some ':'

/-- The failure for an address that names no kind of network; an empty fragment is not shown. -/
def schemeMissing (address : Url.Address) : Failure :=
  let shown := { address with fragment := address.fragment.filter (!·.isEmpty) }
  .misuse (.addressWithoutScheme shown.render)

/-- The request that a reply leads to, if it is a redirect.  The reply to an address without a
scheme cannot be taken in. -/
def nextRequest? (request : Request) (response : Response) : Except Failure (Option Request) :=
  if !namesScheme request.address then .error (schemeMissing request.address)
  else
    match response.location? with
    | none => .ok none
    | some location => (request.redirect response.status location).map some

/-- Send a request, and the requests that redirects lead to, so many of them at most. -/
def deliver (connection : Nat) : Nat → Request → Exchange Response
  | 0, request => do
      let response ← Exchange.transmit connection request
      match ← Failure.orThrow (nextRequest? request response) with
      | none => pure response
      | some _ => throw tooManyRedirects
  | left + 1, request => do
      let response ← Exchange.transmit connection request
      match ← Failure.orThrow (nextRequest? request response) with
      | none => pure response
      | some next => deliver connection left next

/-- Open a connection for a client unless one is open, and answer its number with the base address.
Of the times to wait and the address, the times are looked at first; both matter only when a
connection is opened. -/
def connect (client : Client) : Exchange (Nat × Url.Address) := do
  let _ ← Failure.orThrow client.patience
  let base ← Failure.orThrow client.base
  let connection ← Exchange.acquire
  pure (connection, base)

/-- A text that is part of a call.  The connection is open before it is found out that the part is
no text, which lacks an operation of texts. -/
def readText (client : Client) (operation : String) : Value → Exchange String
  | .text s => pure s
  | .option o => pure o.name
  | value => do
      let _ ← connect client
      throw (.misuse (.noPart value.kindName operation))

/-- Carry out an intent on behalf of a client, and answer a response with success.  The intent is
logged before its request is made: where its line cannot be written, nothing else is done. -/
def send (client : Client) (intent : Intent) : Exchange Response := do
  let (connection, base) ← connect client
  let line ← Failure.orThrow (Failure.ofMisuse (intent.logMessage (client.buildPath intent.path)))
  Exchange.note .debug .http line
  let request ← Failure.orThrow (client.request base intent)
  let response ← deliver connection redirectLimit request
  if response.isSuccess then pure response else throw response.failure

/-- The characters in front of a body that keep it from being run as a script. -/
def guardText : String := ")]\x7d'"

/-- The text without the guard, if it starts with it. -/
def dropGuard (text : String) : String :=
  let guarded := guardText.toList
  if guarded.isPrefixOf text.toList then String.ofList (text.toList.drop guarded.length) else text

/-- Decode the text of a body.  The nesting of the document is not bounded, as in `Json.parse`:
where a reader is bounded, giving up is not reported as a malformed answer but raised as it is, and
this holds of every call whose answer is decoded. -/
def decodeJson (text : String) : Except Failure Json :=
  let body := dropGuard text
  match Json.parse body with
  | .ok value => .ok value
  | .error fault =>
      .error (.ofError (.malformed s!"Invalid JSON in response: {fault.describe body.toList}"))

/-- Decode the text of a body, which may be blank. -/
def decodeOptional (text : String) : Except Failure Json :=
  if Text.isBlankText text then .ok .null else decodeJson text

/-- An intent without parameters, body and headers of its own. -/
def Intent.plain (method path : String) : Intent :=
  { method := .text method
    path := path
    parameters := .null
    body := .null
    headers := [] }

/-- The text of a response, read with `decode`. -/
def readBody (response : Response) (decode : String → Except Failure Json) : Exchange Json :=
  match response.text with
  | .ok text => Failure.orThrow (decode text)
  | .error misuse => throw (.misuse misuse)

/-- Fetch and decode. -/
def getJson (client : Client) (path : String) (parameters : Value) : Exchange Json := do
  let response ← send client { Intent.plain "GET" path with parameters := parameters }
  readBody response decodeJson

/-- Put a body in place, and decode the answer if there is one. -/
def putJson (client : Client) (path : String) (body : Value) : Exchange Json := do
  let response ← send client { Intent.plain "PUT" path with body := body }
  readBody response decodeOptional

/-- Post a body, and decode the answer if there is one. -/
def postJson (client : Client) (path : String) (body : Value) : Exchange Json := do
  let response ← send client { Intent.plain "POST" path with body := body }
  readBody response decodeOptional

/-- Delete what is there. -/
def delete (client : Client) (path : String) : Exchange Unit := do
  let _ ← send client (Intent.plain "DELETE" path)
  pure ()

end ReviewGroups.Http
