/-
Module: ReviewGroups.Http.Message
Purpose: Requests and responses, their headers, and the text of a response.
Trusted boundary: none
Main exports: Header, Request, Response, Response.header?, Response.charset, Response.text,
  Response.retryAfter, NetworkFault, Reply
-/
import ReviewGroups.Failure
import ReviewGroups.Text.Digit
import ReviewGroups.Url.Address

namespace ReviewGroups.Http

/-- A header of a request: its name in any case, and its value. -/
abbrev Header := String × String

/-- A name in lower case, by which headers are compared. -/
def headerKey (name : String) : String :=
  String.ofList (name.toList.map Char.toLower)

namespace Header

/-- Some header has the name. -/
def has (name : String) (headers : List Header) : Bool :=
  headers.any fun header => headerKey header.1 == name

/-- The headers without those of a name. -/
def drop (name : String) (headers : List Header) : List Header :=
  headers.filter fun header => headerKey header.1 != name

/-- Add a header unless one of its name is there. -/
def default (name value : String) (headers : List Header) : List Header :=
  if has (headerKey name) headers then headers else headers ++ [(name, value)]

/-- Set a header: in the place of the first one of its name, and of all of them. -/
def set (name value : String) (headers : List Header) : List Header :=
  if has (headerKey name) headers then
    let before := headers.takeWhile fun header => headerKey header.1 != headerKey name
    let after := headers.drop (before.length + 1)
    before ++ (name, value) :: drop (headerKey name) after
  else headers ++ [(name, value)]

end Header

/-- A request as it goes to the network. -/
structure Request where
  method : String
  address : Url.Address
  headers : List Header
  body : String
  timeout : Value
deriving Repr, Inhabited

/-- A response as it comes from the network: names of headers as text, all else as bytes. -/
structure Response where
  status : Int
  headers : List (String × List UInt8)
  body : List UInt8
deriving Repr, Inhabited, DecidableEq

namespace Response

/-- A status from 200 to 299. -/
def isSuccess (response : Response) : Bool :=
  200 ≤ response.status && response.status < 300

/-- How the values of headers are read: as ASCII or UTF-8 if all of them are that, and otherwise
with one character for each byte. -/
def headerText (response : Response) (bytes : List UInt8) : String :=
  String.ofList <|
    if response.headers.all fun header => (Text.Utf8.decode? header.2).isSome then
      Text.Utf8.decodeReplacing bytes
    else bytes.map fun b => Char.ofNat b.toNat

/-- The value of a header; values of repeated headers are joined. -/
def header? (name : String) (response : Response) : Option String :=
  let values := response.headers.filter fun header => headerKey header.1 == name
  if values.isEmpty then none
  else some (String.intercalate ", " (values.map fun header => response.headerText header.2))

/-- The character set of the body: the one that the content type names if it is known, and
otherwise UTF-8. -/
def charset (response : Response) : Except ContentType.Fault Charset :=
  match response.header? "content-type" with
  | none => .ok .utf8
  | some contentType => (ContentType.charset? contentType).map (·.getD .utf8)

/-- The body as text.  An empty body is the empty text, whatever its content type says. -/
def text (response : Response) : Except Misuse String :=
  if response.body.isEmpty then .ok ""
  else
    match response.charset with
    | .error fault => .error (.contentType fault)
    | .ok charset =>
        match charset.decode response.body with
        | .error fault => .error (.unreadable fault)
        | .ok cs => .ok (String.ofList cs)

/-- The number of seconds after which to try again.  A value that does not consist of digits is
passed over, one with digits that have no place value is refused. -/
def retryAfter (response : Response) : Except Misuse Value :=
  match response.header? "retry-after" with
  | none => .ok .null
  | some value =>
      if value.isEmpty || !value.toList.all Text.isDigit then .ok .null
      else
        match Text.readWhole value with
        | .ok seconds => .ok (.int seconds)
        | .error .notWhole => .error (.notWhole value)
        | .error (.tooLong digits) => .error (.wholeTooLong digits)

end Response

/-- What can go wrong on the network; a fault of a kind outside these is passed on as it is. -/
inductive NetworkFault where
  | timeout
  | connection
  | other
  | outside (kind : String)
deriving Repr, Inhabited, DecidableEq

/-- What the network answers to a request. -/
inductive Reply where
  | response (response : Response)
  | fault (fault : NetworkFault) (message : String)
deriving Repr, Inhabited

/-- The failure that a fault of the network is to the caller. -/
def NetworkFault.failure (fault : NetworkFault) (message : String) : Failure :=
  match fault with
  | .timeout => .ofError (.withMessage .timeout s!"Request timed out: {message}")
  | .connection => .ofError (.withMessage .connection s!"Connection failed: {message}")
  | .other => .ofError (.withMessage .network s!"Request failed: {message}")
  | .outside kind => .misuse (.outside kind message)

/-- What a response without success says: its text without blanks at the ends, or its status. -/
def Response.complaint (response : Response) : Except Misuse String :=
  response.text.map fun text =>
    let words := Text.trim text
    if words.isEmpty then s!"HTTP {response.status}" else words

/-- The failure that a response without success is to the caller. -/
def Response.failure (response : Response) : Failure :=
  match response.complaint with
  | .error misuse => .misuse misuse
  | .ok complaint =>
      if response.status = 429 then
        match response.retryAfter with
        | .ok seconds =>
            .ofError (.build (.rateLimit seconds) (.text complaint) (.int response.status) [])
        | .error misuse => .misuse misuse
      else .ofError (.ofResponse response.status complaint)

end ReviewGroups.Http
