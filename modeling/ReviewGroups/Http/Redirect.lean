/-
Module: ReviewGroups.Http.Redirect
Purpose: The request that follows a redirect.
Trusted boundary: none
Main exports: Response.location?, redirectMethod, redirectAddress, redirectHeaders, Request.redirect
-/
import ReviewGroups.Http.Client
import ReviewGroups.Url.Join

namespace ReviewGroups.Http

/-- Where a redirect leads, if a response is one. -/
def Response.location? (response : Response) : Option String :=
  if response.status ∈ [301, 302, 303, 307, 308] then response.header? "location" else none

/-- The method of the next request: 302 and 303 ask for the answer to be fetched, and so does 301
after a posting; the others repeat the request. -/
def redirectMethod (status : Int) (method : String) : String :=
  if (status = 303 ∨ status = 302) ∧ method ≠ "HEAD" then "GET"
  else if status = 301 ∧ method = "POST" then "GET"
  else method

/-- The host of an address as people read it. -/
def readHost (address : Url.Address) : Except Misuse String :=
  match address.shownHost with
  | .ok host => .ok host
  | .error fault => .error (.hostName fault)

/-- Go on with the address, or report what is wrong with it. -/
def orRefuse : Except AddressFault Url.Address → Except Misuse Url.Address
  | .ok address => .ok address
  | .error fault => .error (.address fault)

/-- The address that a reference leads to from another one.  A scheme without a host keeps the host;
a relative reference is resolved; a fragment stays until another one comes. -/
def resolveReference (current reference : Url.Address) : Except Misuse Url.Address := do
  let hosted ←
    if reference.scheme.isEmpty then pure reference
    else
      let host ← readHost reference
      if host.isEmpty then orRefuse (reference.withHost (← readHost current)) else pure reference
  let resolved ← if hosted.isAbsolute then pure hosted else orRefuse (current.join hosted)
  match current.fragment, resolved.fragment with
  | some fragment, kept =>
      if !fragment.isEmpty && (kept.getD "").isEmpty then
        orRefuse (resolved.withFragment (Url.Percent.decode fragment.toList))
      else pure resolved
  | none, _ => pure resolved

/-- The address of the next request. -/
def redirectAddress (current : Url.Address) (location : String) : Except Failure Url.Address :=
  match Url.Address.parse location with
  | .error fault =>
      .error (NetworkFault.other.failure s!"Invalid URL in location header: {fault.message}.")
  | .ok reference =>
      match resolveReference current reference with
      | .ok address => .ok address
      | .error misuse => .error (.misuse misuse)

/-- The headers of the next request.  Credentials stay with the origin they were meant for; what
describes a body goes when the body does. -/
def redirectHeaders (request : Request) (address : Url.Address) (method : String) :
    Except LabelFault (List Header) := do
  let kept ←
    if ← Url.Address.sameOrigin address request.address then pure request.headers
    else do
      let kept :=
        if ← Url.Address.isUpgrade request.address address then request.headers
        else Header.drop "authorization" request.headers
      pure (Header.set "Host" (String.ofList address.location) kept)
  let described :=
    if method ≠ request.method ∧ method = "GET" then
      Header.drop "transfer-encoding" (Header.drop "content-length" kept)
    else kept
  pure (Header.drop "cookie" described)

/-- The request that follows a redirect to a location. -/
def Request.redirect (request : Request) (status : Int) (location : String) :
    Except Failure Request := do
  let method := redirectMethod status request.method
  let address ← redirectAddress request.address location
  let headers ←
    match redirectHeaders request address method with
    | .ok headers => pure headers
    | .error fault => throw (.misuse (.hostName fault))
  pure
    { method := method
      address := address
      headers := headers
      body := if method ≠ request.method ∧ method = "GET" then "" else request.body
      timeout := request.timeout }

end ReviewGroups.Http
