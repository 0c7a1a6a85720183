/-
Module: ReviewGroups.Http.Client
Purpose: What a client adds to a request: base address, path, headers, credentials and body.
Trusted boundary: none
Main exports: Client, Client.new, Client.buildPath, Client.buildHeaders, Intent, Intent.queryString,
  Intent.logMessage, Client.base, Client.patience, Client.request
-/
import ReviewGroups.Filter.Parameters
import ReviewGroups.Http.Message
import ReviewGroups.Text.Base64
import ReviewGroups.Url.Form
import ReviewGroups.Value.Body
import ReviewGroups.Value.Key

namespace ReviewGroups.Http

/-- The fixed part of every request: where the server is, who asks, and what goes along.  Cookies
are left out: those that an answer sets are not kept, and none are sent. -/
structure Client where
  baseUrl : String
  credentials : Option (String × String)
  timeout : Value
  headers : Keyed Value
deriving Repr, Inhabited

/-- What a caller wants to send, before the client has its say.  Null parameters and a null body are
none at all. -/
structure Intent where
  method : Value
  path : String
  parameters : Value
  body : Value
  headers : Keyed Value
deriving Repr, Inhabited

namespace Client

/-- A client for the server at an address.  Without a user name it is anonymous. -/
def new (baseUrl : String) (username password : Option String) (timeout : Value)
    (headers : Keyed Value) : Client :=
  { baseUrl := Text.dropTrailingSlashes baseUrl
    credentials :=
      (username.filter (!·.isEmpty)).map fun username => (username, password.getD "")
    timeout := timeout
    headers := headers }

/-- The client has credentials. -/
def isAuthenticated (client : Client) : Bool :=
  client.credentials.isSome

/-- The path of a request: it starts with a slash, and with `/a` before that for a client with
credentials. -/
def buildPath (client : Client) (path : String) : String :=
  let rooted := if path.toList.head? = some '/' then path else "/" ++ path
  if client.isAuthenticated then "/a" ++ rooted else rooted

/-- The headers of a request: those of the client and of the call, the later ones first in rank;
names are compared as they are written. -/
def buildHeaders (client : Client) (extra : Keyed Value) : Keyed Value :=
  Keyed.update (Keyed.update [("Accept", .text "application/json")] client.headers) extra

/-- The address that others are appended to. -/
def base (client : Client) : Except Failure Url.Address :=
  match (Url.Address.parse client.baseUrl).bind Url.Address.asBase with
  | .ok address => .ok address
  | .error fault => .error (.misuse (.address fault))

end Client

namespace Intent

/-- The parameters without those that are null, if they are given by name. -/
def givenParameters (intent : Intent) : Value :=
  match intent.parameters with
  | .dict entries =>
      .dict (entries.filter fun (_, value) => match value with | .null => false | _ => true)
  | value => value

/-- The whole numbers in the method and in the parameters must have few enough digits to be
written. -/
def checkWritable (intent : Intent) : Except Misuse Unit :=
  if intent.method.isWritable && intent.givenParameters.isWritable then .ok ()
  else .error .wholeUnwritable

/-- What is logged about a request that is to go to `url`. -/
def logMessage (intent : Intent) (url : String) : Except Misuse String := do
  intent.checkWritable
  pure s!"{intent.method.toText} {url} params={intent.givenParameters.toText}"

end Intent

namespace Parameter

/-- A single value in a query string. -/
def valueText : Value → String
  | .null => ""
  | .bool b => if b then "true" else "false"
  | value => value.toText

/-- The values under one name: those of a list or a tuple, or a single one. -/
def valueTexts : Value → List String
  | .items .list values => values.map valueText
  | .items .tuple values => values.map valueText
  | value => [valueText value]

/-- Gather the values of pairs under their names, each name at its first place. -/
def gatherPairs : List Value → Except Misuse (List (Value × List Value)) :=
  List.foldlM (fun gathered pair => do
    let name ← (← pair.item 0).readKey
    let value ← pair.item 1
    pure (add name value gathered)) []
where
  add (name value : Value) : List (Value × List Value) → List (Value × List Value)
    | [] => [(name, [value])]
    | (known, values) :: rest =>
        if known.isSame name then (known, values ++ [value]) :: rest
        else (known, values) :: add name value rest

/-- The values of pairs, names as text.  Of names that become the same text the last one counts. -/
def ofPairs (pairs : List Value) : Except Misuse (Keyed (List String)) := do
  let gathered ← gatherPairs pairs
  pure (Keyed.ofPairs (gathered.map fun (name, values) => (name.toText, values.map valueText)))

/-- The values of each name, in the order in which the names came first; none for parameters that
leave the query of the address as it is. -/
def gather : Value → Except Misuse (Option (Keyed (List String)))
  | .null => .ok none
  | .dict entries =>
      .ok (some (Keyed.ofPairs (entries.map fun (name, value) => (name.toText, valueTexts value))))
  | .items .list pairs => (ofPairs pairs).map some
  | .items .tuple pairs => (ofPairs pairs).map some
  | .text s => .ok (some (Url.Form.group (Url.Form.decode s.toList)))
  | .option o => .ok (some (Url.Form.group (Url.Form.decode o.name.toList)))
  | value => if value.isTruthy then .error (.noPart value.kindName "items") else .ok (some [])

end Parameter

/-- The address with the query that parameters ask for.  Names without any value leave an empty
query, no names leave none. -/
def withParameters (address : Url.Address) (parameters : Option (Keyed (List String))) :
    Except Failure Url.Address :=
  match parameters with
  | none => .ok address
  | some gathered =>
      let query :=
        if gathered.isEmpty then none else some (Url.Form.encode (Url.Form.ungroup gathered))
      match address.withQuery query with
      | .ok address => .ok address
      | .error fault => .error (.misuse (.address fault))

/-- The first run of characters beyond ASCII in a text, and its place. -/
def beyondAscii? (cs : List Char) : Option (List Char × Nat) :=
  let before := cs.takeWhile (·.toNat < 0x80)
  let run := (cs.drop before.length).takeWhile (0x80 ≤ ·.toNat)
  if run.isEmpty then none else some (run, before.length)

/-- A name or a value of a header is in ASCII. -/
def checkAscii (text : String) : Except Misuse Unit :=
  match beyondAscii? text.toList with
  | some (run, position) => .error (.headerNotAscii run position)
  | none => .ok ()

/-- A header that can be sent: the name is in ASCII, and the value is a text in ASCII. -/
def checkHeader (name : String) (value : Value) : Except Misuse Header := do
  checkAscii name
  match value.text? with
  | none => throw (.headerNotText value.kindName)
  | some text => do
      checkAscii text
      pure (name, text)

/-- Headers that can be sent. -/
def checkHeaders (headers : Keyed Value) : Except Misuse (List Header) :=
  headers.mapM fun (name, value) => checkHeader name value

/-- The methods that announce an empty body. -/
def announcesEmptyBody (method : String) : Bool :=
  method == "POST" || method == "PUT" || method == "PATCH"

/-- Add what a body needs in the headers. -/
def describeBody (method : String) (body : Option String) (headers : List Header) : List Header :=
  match body with
  | some text =>
      let length := (Text.Utf8.encode text.toList).length
      Header.default "Content-Type" "application/json"
        (Header.default "Content-Length" (toString length) headers)
  | none =>
      if announcesEmptyBody method && !Header.has "content-length" headers &&
          !Header.has "transfer-encoding" headers then
        ("Content-Length", "0") :: headers
      else headers

/-- The value that proves who asks. -/
def basicAuthorization (credentials : String × String) : String :=
  let bytes := Text.Utf8.encode (credentials.1.toList ++ ':' :: credentials.2.toList)
  "Basic " ++ String.ofList (Text.Base64.encode bytes)

/-- The credentials that a request is sent with: those of the client, or those in the address. -/
def Client.effectiveCredentials (client : Client) (address : Url.Address) :
    Option (String × String) :=
  match client.credentials with
  | some credentials => some credentials
  | none =>
      let (username, password) := address.credentials
      if username.isEmpty && password.isEmpty then none else some (username, password)

/-- A method in upper case; it must be a text. -/
def upperMethod (method : Value) : Except Misuse String :=
  match method.text? with
  | some name => .ok (Text.upper name)
  | none => .error (.notAWord method.kindName)

/-- The header that names the host; a request that has one keeps it.  A host that stands for a name
beyond ASCII must be in order. -/
def nameHost (address : Url.Address) (headers : List Header) : Except Failure (List Header) :=
  if Header.has "host" headers then .ok headers
  else
    match address.shownHost with
    | .error fault => .error (.misuse (.hostName fault))
    | .ok host =>
        .ok (if host.isEmpty then headers else ("Host", String.ofList address.location) :: headers)

/-- The longest time to wait for an answer: the second one of several times. -/
def Client.patience (client : Client) : Except Failure Value :=
  match client.timeout with
  | .items .tuple _ =>
      match client.timeout.item 0, client.timeout.item 1 with
      | .ok _, .ok time => .ok time
      | .error misuse, _ | _, .error misuse => .error (.misuse misuse)
  | time => .ok time

/-- The request that a client sends for an intent, with `base` as its base address.  What cannot be
written in the log cannot be written in a query either. -/
def Client.request (client : Client) (base : Url.Address) (intent : Intent) :
    Except Failure Request := do
  Failure.ofMisuse intent.checkWritable
  let reference ←
    match Url.Address.parse (client.buildPath intent.path) with
    | .ok reference => pure reference
    | .error fault => throw (.misuse (.address fault))
  let appended ←
    match base.append reference with
    | .ok address => pure address
    | .error fault => throw (.misuse (.address fault))
  let headers ← Failure.ofMisuse (checkHeaders (client.buildHeaders intent.headers))
  let parameters ← Failure.ofMisuse (Parameter.gather intent.givenParameters)
  let method ← Failure.ofMisuse (upperMethod intent.method)
  let address ← withParameters appended parameters
  let body ← Failure.ofMisuse intent.body.requestBody
  let named ← nameHost address headers
  let written := body.map (Json.render compact)
  let described := describeBody method written named
  let authorized :=
    match client.effectiveCredentials address with
    | some credentials => Header.set "Authorization" (basicAuthorization credentials) described
    | none => described
  pure
    { method := method
      address := address
      headers := authorized
      body := written.getD ""
      timeout := ← client.patience }

end ReviewGroups.Http
