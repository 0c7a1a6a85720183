/-
Module: ReviewGroups.Http.Access
Purpose: What a caller can ask of a client directly, past the facade.
Trusted boundary: none
Main exports: Client.Call, Client.Answer, Client.perform
-/
import ReviewGroups.Http.Delivery

namespace ReviewGroups.Http

namespace Client

/-- What can be asked of a client, its arguments as the caller gave them.  A client that is entered
is left later on, perhaps because of a failure. -/
inductive Call where
  | path (path : Value)
  | headers (extra : Keyed Value)
  | request (method path parameters body : Value) (headers : Keyed Value)
  | getJson (path parameters : Value)
  | putJson (path body : Value)
  | postJson (path body : Value)
  | delete (path : Value)
  | enter
  | leave (raised : Option Failure)
  | close
deriving Repr, Inhabited

/-- What a client answers. -/
inductive Answer where
  | path (path : String)
  | headers (headers : Keyed Value)
  | response (response : Response)
  | json (value : Json)
  | nothing
deriving Repr, Inhabited

end Client

/-- Go on with a failure that was underway, if there is one. -/
def Exchange.goOn : Option Failure → Exchange Unit
  | none => pure ()
  | some failure => throw failure

/-- Do what is asked of a client. -/
def Client.perform (client : Client) : Client.Call → Exchange Client.Answer
  | .path path =>
      match path.text? with
      | some path => pure (.path (client.buildPath path))
      | none => throw (.misuse (.noPart path.kindName "startswith"))
  | .headers extra => pure (.headers (client.buildHeaders extra))
  | .request method path parameters body headers => do
      let path ← readText client "startswith" path
      let response ← send client
        { method := method
          path := path
          parameters := parameters
          body := body
          headers := headers }
      pure (.response response)
  | .getJson path parameters => do
      let path ← readText client "startswith" path
      let value ← getJson client path parameters
      pure (.json value)
  | .putJson path body => do
      let path ← readText client "startswith" path
      let value ← putJson client path body
      pure (.json value)
  | .postJson path body => do
      let path ← readText client "startswith" path
      let value ← postJson client path body
      pure (.json value)
  | .delete path => do
      let path ← readText client "startswith" path
      delete client path
      pure .nothing
  | .enter => do
      let _ ← connect client
      pure .nothing
  | .leave raised => do
      Exchange.release
      Exchange.goOn raised
      pure .nothing
  | .close => do
      Exchange.release
      pure .nothing

end ReviewGroups.Http
