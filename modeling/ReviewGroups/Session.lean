/-
Module: ReviewGroups.Session
Purpose: What a caller does with a client over time, by whatever way: the facade and what it gives,
  the transport below it, and the client itself.
Trusted boundary: none
Main exports: Session.Step, Session.Answer, Session.perform, Session.run
-/
import ReviewGroups.Holding
import ReviewGroups.Http.Access
import ReviewGroups.ReviewClient

namespace ReviewGroups.Session

open Http (Exchange)

/-- What can be done with a client and with what is kept of what it gave.  A client that is entered
is left later on, perhaps because of a failure. -/
inductive Step where
  | hold (step : Holding.Step)
  | resolve (identifier : Value)
  | createGroup (input : Value)
  | listGroups (filter : Value)
  | queryGroups (filter : Value)
  | perform (call : Call)
  | http (call : Http.Client.Call)
  | enter
  | leave (raised : Option Failure)
  | close
  | describe
deriving Repr, Inhabited

/-- What a client tells about itself. -/
structure Description where
  display : String
  baseUrl : String
  httpBaseUrl : String
  timeout : Value
  authenticated : Bool
deriving Repr, Inhabited

/-- What a step answers. -/
inductive Answer where
  | held (answer : Holding.Answer)
  | group (group : Group)
  | groupMap (groups : Keyed Group)
  | groups (groups : List Group)
  | server (answer : ReviewGroups.Answer)
  | http (answer : Http.Client.Answer)
  | description (description : Description)
  | nothing

/-- What a client tells about itself. -/
def describe (client : ReviewClient) : Description :=
  { display := client.display
    baseUrl := client.baseUrl
    httpBaseUrl := client.http.baseUrl
    timeout := client.http.timeout
    authenticated := client.http.isAuthenticated }

/-- Take a step: what it comes to, and what is kept afterwards. -/
def perform (client : ReviewClient) (holdings : List Holding) :
    Step → Exchange (Except Failure Answer × List Holding)
  | .hold step => do
      let (outcome, next) ← Holding.perform client.facade holdings step
      pure (outcome.map .held, next)
  | .resolve identifier => Building.ask holdings .group (Rest.resolve client.http identifier)
  | .createGroup input => Building.ask holdings .group (Rest.create client.http input)
  | .listGroups filter =>
      Building.ask holdings .groupMap do
        let filter ← Failure.orThrow (Failure.ofMisuse (Rest.readListFilter filter))
        Rest.listGroups client.http filter
  | .queryGroups filter =>
      Building.ask holdings .groups do
        let filter ← Failure.orThrow (Failure.ofMisuse (Rest.readQueryFilter filter))
        Rest.queryGroups client.http filter
  | .perform call => Building.ask holdings .server (Rest.perform client.http call)
  | .http call => Building.ask holdings .http (client.http.perform call)
  | .enter => pure (.ok .nothing, holdings)
  | .leave raised =>
      Building.ask holdings (fun () => .nothing) do
        client.close
        Exchange.goOn raised
  | .close => Building.ask holdings (fun () => .nothing) client.close
  | .describe => pure (.ok (.description (describe client)), holdings)

/-- Take steps one after the other, each one whatever came of the one before it. -/
def run (client : ReviewClient) (holdings : List Holding) (steps : List Step) :
    Exchange (List (Except Failure Answer) × List Holding) :=
  Building.run (perform client) holdings steps

end ReviewGroups.Session
