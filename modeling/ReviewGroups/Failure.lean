/-
Module: ReviewGroups.Failure
Purpose: Every way in which a call can fail, with its wording.
Trusted boundary: none
Main exports: ApiKind, ApiKind.ofStatus, ApiError, ApiError.build, ApiError.describe, Misuse,
  Failure, Failure.ofMisuse
-/
import ReviewGroups.Check.Basic
import ReviewGroups.Http.ContentType
import ReviewGroups.Json.Fault
import ReviewGroups.Url.Host
import ReviewGroups.Value.Display

namespace ReviewGroups

/-- What kind of thing went wrong with the server, the network or an answer, and what is known about
it beyond a message. -/
inductive ApiKind where
  | other
  | badRequest
  | methodNotAllowed
  | unprocessable
  | authentication
  | authorization
  | notFound (resourceType resourceId : Value)
  | groupNotFound (group : Value)
  | conflict
  | groupExists (name : Value)
  | rateLimit (retryAfter : Value)
  | server
  | unavailable
  | network
  | timeout
  | connection
  | malformed
deriving Repr, Inhabited

namespace ApiKind

/-- The name of a kind. -/
def name : ApiKind → String
  | .other => "ApiError"
  | .badRequest => "BadRequestError"
  | .methodNotAllowed => "MethodNotAllowedError"
  | .unprocessable => "UnprocessableEntityError"
  | .authentication => "AuthenticationError"
  | .authorization => "AuthorizationError"
  | .notFound .. => "NotFoundError"
  | .groupNotFound _ => "GroupNotFoundError"
  | .conflict => "ConflictError"
  | .groupExists _ => "GroupExistsError"
  | .rateLimit _ => "RateLimitError"
  | .server => "ServerError"
  | .unavailable => "ServiceUnavailableError"
  | .network => "NetworkError"
  | .timeout => "TimeoutError"
  | .connection => "ConnectionError"
  | .malformed => "MalformedResponseError"

/-- The kind that a kind is a case of. -/
def parent? : ApiKind → Option ApiKind
  | .other => none
  | .groupNotFound group => some (.notFound (.text "group") group)
  | .groupExists _ => some .conflict
  | .unavailable => some .server
  | .timeout => some .network
  | .connection => some .network
  | _ => some .other

/-- The names of a kind and of all it is a case of. -/
def lineage (kind : ApiKind) : List String :=
  match kind.parent? with
  | none => [kind.name]
  | some parent =>
      match parent.parent? with
      | none => [kind.name, parent.name]
      | some ancestor => [kind.name, parent.name, ancestor.name]

/-- The message that stands where none is given. -/
def defaultMessage : ApiKind → String
  | .other => ""
  | .badRequest => "Bad request"
  | .methodNotAllowed => "Method not allowed"
  | .unprocessable => "Unprocessable entity"
  | .authentication => "Authentication required"
  | .authorization => "Access denied"
  | .notFound .. => "Resource not found"
  | .groupNotFound group =>
      if group.isTruthy then s!"Group not found: {group.toText}" else "Group not found"
  | .conflict => "Resource conflict"
  | .groupExists name => s!"Group already exists: {name.toText}"
  | .rateLimit _ => "Rate limit exceeded"
  | .server => "Server error"
  | .unavailable => "Service temporarily unavailable"
  | .network => "Network error"
  | .timeout => "Request timed out"
  | .connection => "Failed to connect to server"
  | .malformed => "Malformed response"

/-- The status that stands where none is given. -/
def defaultStatus : ApiKind → Value
  | .badRequest => .int 400
  | .authentication => .int 401
  | .authorization => .int 403
  | .notFound .. | .groupNotFound _ => .int 404
  | .methodNotAllowed => .int 405
  | .conflict | .groupExists _ => .int 409
  | .unprocessable => .int 422
  | .rateLimit _ => .int 429
  | .server => .int 500
  | .unavailable => .int 503
  | .other | .network | .timeout | .connection | .malformed => .null

/-- What a kind says about the resource that is concerned: its type and its identifier, as far as
they are known and not empty. -/
def resourceDetails : ApiKind → Keyed Value
  | .notFound resourceType resourceId =>
      entry "resource_type" resourceType ++ entry "resource_id" resourceId
  | .groupNotFound group => entry "resource_type" (.text "group") ++ entry "resource_id" group
  | _ => []
where
  entry (name : String) (value : Value) : Keyed Value :=
    if value.isTruthy then [(name, value)] else []

/-- The kind of failure that the status of an answer stands for. -/
def ofStatus (status : Int) : ApiKind :=
  if status = 400 then .badRequest
  else if status = 401 then .authentication
  else if status = 403 then .authorization
  else if status = 404 then .notFound .null .null
  else if status = 405 then .methodNotAllowed
  else if status = 409 then .conflict
  else if status = 422 then .unprocessable
  else if status = 429 then .rateLimit .null
  else if status = 503 then .unavailable
  else if 500 ≤ status ∧ status < 600 then .server
  else .other

end ApiKind

/-- A failure that comes from the server, the network or the shape of an answer.  A caller that
builds one may give any message and any status; null is no status.  `flaws` holds the record and the
issues that were found when an answer did not have the right shape. -/
structure ApiError where
  kind : ApiKind
  message : Value
  status : Value
  details : Keyed Value
  flaws : Option (Schema × List Issue)
deriving Repr, Inhabited

namespace ApiError

/-- A failure of a kind, with the parts of it that are given. -/
def build (kind : ApiKind) (message status : Value) (details : Keyed Value) : ApiError :=
  { kind := kind
    message := message
    status := status
    details := Keyed.update details kind.resourceDetails
    flaws := none }

/-- A failure of a kind with a message, and all else as it usually is. -/
def withMessage (kind : ApiKind) (message : String) : ApiError :=
  build kind (.text message) kind.defaultStatus []

/-- The failure that an answer with some status stands for. -/
def ofResponse (status : Int) (message : String) : ApiError :=
  build (.ofStatus status) (.text message) (.int status) []

/-- A failure of a kind that words its message itself unless one is given. -/
def worded (kind : ApiKind) (message : Value) (details : Keyed Value) : ApiError :=
  build kind (if message.isTruthy then message else .text kind.defaultMessage) kind.defaultStatus
    details

/-- No group has the identifier. -/
def groupNotFound (group message : Value) (details : Keyed Value) : ApiError :=
  worded (.groupNotFound group) message details

/-- A group with the name is there already. -/
def groupExists (name message : Value) (details : Keyed Value) : ApiError :=
  worded (.groupExists name) message details

/-- An answer that does not have the right shape. -/
def malformed (message : String) : ApiError :=
  withMessage .malformed message

/-- The kind, the message with the marks of its kind, and the status. -/
def display (error : ApiError) : String :=
  s!"{error.kind.name}(message={error.message.display}, status_code={error.status.toText})"

end ApiError

/-- A call that cannot be carried out as it was made, or an answer that cannot be taken in. -/
inductive Misuse where
  | unknownOption (word : String)
  | notAWord (kind : String)
  | notIterable (kind : String)
  | noPart (kind part : String)
  | identifierNotText
  | handleWithoutIdentifier
  | notFinite
  | notSerializable (kind : String)
  | keyNotText (kind : String)
  | notAPath (kind : String)
  | notHashable (kind : String)
  | withoutItems (kind : String)
  | beyondEnd (kind : String)
  | keyMissing (place : Nat)
  | partNotText (place : Nat) (kind : String)
  | headerNotAscii (characters : List Char) (position : Nat)
  | headerNotText (kind : String)
  | addressWithoutScheme (address : String)
  | address (fault : AddressFault)
  | hostName (fault : LabelFault)
  | outside (kind message : String)
  | notAText (kind : String)
  | notInOrder (kind : String)
  | notWhole (text : String)
  | wholeTooLong (digits : Nat)
  | wholeUnwritable
  | contentType (fault : Http.ContentType.Fault)
  | unreadable (fault : Charset.Fault)
  | unknownCharset (label : String)
  | notACharset (label : String)
  | labelNotText (kind : String)
deriving Repr, Inhabited, DecidableEq

namespace Misuse

/-- A run of characters that cannot be written, by place, and by escape if it is a single one. -/
def headerMessage (characters : List Char) (position : Nat) : String :=
  let problem :=
    match characters with
    | [c] => s!"character '{String.ofList (Text.numericEscape c.toNat)}' in position {position}"
    | _ => s!"characters in position {position}-{position + characters.length - 1}"
  s!"'ascii' codec can't encode {problem}: ordinal not in range(128)"

/-- The longest part of a text that is quoted back when it is no whole number. -/
def quoteLimit : Nat := 200

/-- The words for a misuse. -/
def message : Misuse → String
  | .unknownOption word => s!"{Text.quoted word} is not a valid ListGroupsOption"
  | .notAWord kind => s!"'{kind}' object has no attribute 'upper'"
  | .notIterable kind => s!"'{kind}' object is not iterable"
  | .noPart kind part => s!"'{kind}' object has no attribute '{part}'"
  | .identifierNotText => "quote_from_bytes() expected bytes"
  | .handleWithoutIdentifier => "GroupInfo without id cannot back a GroupApi"
  | .notFinite => "Out of range float values are not JSON compliant"
  | .notSerializable kind => s!"Object of type {kind} is not JSON serializable"
  | .keyNotText kind => s!"keys must be str, int, float, bool or None, not {kind}"
  | .notAPath kind => s!"expected str, bytes or os.PathLike object, not {kind}"
  | .notHashable kind => s!"unhashable type: '{kind}'"
  | .withoutItems kind => s!"'{kind}' object is not subscriptable"
  | .beyondEnd kind => s!"{kind} index out of range"
  | .keyMissing place => toString place
  | .partNotText place kind => s!"sequence item {place}: expected str instance, {kind} found"
  | .headerNotAscii characters position => headerMessage characters position
  | .headerNotText kind => s!"Header value must be str or bytes, not <class '{kind}'>"
  | .addressWithoutScheme text => s!"unknown url type: {Text.quoted text}"
  | .address fault => fault.message
  | .hostName fault => fault.message
  | .outside _ words => words
  | .notAText kind => s!"__str__ returned non-string (type {kind})"
  | .notInOrder kind => s!"'<=' not supported between instances of 'int' and '{kind}'"
  | .notWhole text =>
      "invalid literal for int() with base 10: " ++
        String.ofList ((Text.quoted text).toList.take quoteLimit)
  | .wholeTooLong digits => numberTooLongMessage digits
  | .wholeUnwritable =>
      s!"Exceeds the limit ({Text.digitLimit} digits) for integer string conversion; " ++
        "use sys.set_int_max_str_digits() to increase the limit"
  | .contentType fault => fault.message
  | .unreadable fault => fault.message
  | .unknownCharset label => s!"unknown encoding: {label}"
  | .notACharset label =>
      s!"'{label}' is not a text encoding; use codecs.open() to handle arbitrary codecs"
  | .labelNotText kind => s!"open() argument 'encoding' must be str or None, not {kind}"

end Misuse

/-- The message, and the status if there is one other than zero.  A message on its own must be a
text. -/
def ApiError.describe (error : ApiError) : Except Misuse String :=
  if error.status.isTruthy then .ok s!"{error.message.toText} (HTTP {error.status.toText})"
  else
    match error.message with
    | .text words => .ok words
    | .option option => .ok option.name
    | value => .error (.notAText value.kindName)

/-- Why a call did not answer. -/
inductive Failure where
  | api (error : ApiError) (cause : Option ApiError)
  | invalid (schema : Schema) (issues : List Issue)
  | unsupported (operation : Value)
  | misuse (misuse : Misuse)
deriving Repr, Inhabited

namespace Failure

/-- A failure that no other one led to. -/
def ofError (error : ApiError) : Failure := .api error none

/-- The words for an operation that an implementation does not provide. -/
def unsupportedMessage (operation : Value) : String :=
  s!"Operation not implemented: {operation.toText}"

/-- The record that a check asks for, or the failure that names its issues. -/
def ofCheck {α : Type} (schema : Schema) : Check α → Except Failure α
  | .valid value => .ok value
  | .invalid issues => .error (.invalid schema issues)

/-- Go on with the value, or report the misuse. -/
def ofMisuse {α : Type} : Except Misuse α → Except Failure α
  | .ok value => .ok value
  | .error cause => .error (.misuse cause)

/-- Go on with the value, or fail. -/
def orThrow {m : Type → Type} [Monad m] [MonadExceptOf Failure m] {α : Type} :
    Except Failure α → m α
  | .ok value => pure value
  | .error failure => throw failure

end Failure

end ReviewGroups
