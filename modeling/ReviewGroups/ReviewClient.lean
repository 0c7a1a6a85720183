/-
Module: ReviewGroups.ReviewClient
Purpose: The client as a whole: settings, network access and the facade.
Trusted boundary: none
Main exports: ReviewClient.Arguments, ReviewClient, ReviewClient.new, ReviewClient.facade,
  ReviewClient.display, ReviewClient.close
-/
import ReviewGroups.Facade
import ReviewGroups.Rest.Transport
import ReviewGroups.Settings.Basic

namespace ReviewGroups

/-- What a caller says about a client; what is left out comes from settings. -/
structure ReviewClient.Arguments where
  baseUrl : Option String
  username : Option String
  password : Option String
  timeout : Value
  headers : Keyed Value
deriving Repr, Inhabited

/-- A client of a review server. -/
structure ReviewClient where
  baseUrl : String
  http : Http.Client
deriving Repr, Inhabited

namespace ReviewClient

/-- The time to wait: what the caller says, or what the settings say. -/
def effectiveTimeout (timeout : Value) (settings : Settings) : Value :=
  match timeout with
  | .null => .float settings.timeout
  | given => given

/-- A client for what the caller says, completed from settings.  An empty address is none. -/
def new (arguments : Arguments) (settings : Settings) : ReviewClient :=
  let chosen := (arguments.baseUrl.filter (!·.isEmpty)).getD settings.url
  let baseUrl := Text.dropTrailingSlashes chosen
  { baseUrl := baseUrl
    http :=
      Http.Client.new baseUrl (arguments.username <|> settings.username)
        (arguments.password <|> settings.password)
        (effectiveTimeout arguments.timeout settings) arguments.headers }

/-- The facade over the network. -/
def facade (client : ReviewClient) : Facade Http.Exchange :=
  Facade.full (Rest.transport client.http)

/-- A client as text: where it asks, and whether it says who asks. -/
def display (client : ReviewClient) : String :=
  s!"GerritClient(base_url={Text.quoted client.baseUrl}, " ++
    s!"authenticated={Text.ofBool client.http.isAuthenticated})"

/-- What is logged when a client is closed. -/
def closedMessage (client : ReviewClient) : String :=
  s!"Closed client for {client.baseUrl}"

/-- Close the connection and say so. -/
def close (client : ReviewClient) : Http.Exchange Unit := do
  Http.Exchange.release
  Http.Exchange.note .info .client client.closedMessage

end ReviewClient

end ReviewGroups
