/-
Module: ReviewGroups.Holding
Purpose: What a caller keeps between calls, and the steps that are taken with it: looking groups up,
  building requests, and using handles and the copies that they give away.
Trusted boundary: none
Main exports: Holding, Holding.Step, Holding.Answer, Holding.perform
-/
import ReviewGroups.Check.Record
import ReviewGroups.Facade

namespace ReviewGroups

/-- Something that a caller keeps: a request that is being built, a handle on a group, or a copy of
the group of a handle. -/
inductive Holding where
  | listing (request : ListRequest)
  | query (request : QueryRequest)
  | handle (handle : Handle)
  | copy (group : Group)

namespace Holding

/-- What a handle tells without asking the server. -/
inductive Look where
  | id
  | name
  | description
  | display
deriving Repr, Inhabited, DecidableEq

/-- What can be done with a facade and with what is kept.  Places count from zero. -/
inductive Step where
  | find (identifier : Value)
  | create (group : Value)
  | list
  | query (text : Value)
  | supports (operation : String)
  | adopt (fields : Value)
  | build (place : Nat) (call : ListRequest.Call)
  | inquire (place : Nat) (call : QueryRequest.Call)
  | look (place : Nat) (look : Look)
  | take (place : Nat)
  | alter (place : Nat) (group : Group)
  | operate (place : Nat) (operation : Handle.Operation)
deriving Repr, Inhabited

/-- What a step answers: among other things, what is kept from then on. -/
inductive Answer where
  | kept (holding : Holding)
  | listing (answer : ListRequest.Answer)
  | query (answer : QueryRequest.Answer)
  | seen (words : Option String)
  | server (answer : ReviewGroups.Answer)
  | truth (value : Bool)
  | nothing

/-- What a look at a handle shows. -/
def Look.at (handle : Handle) : Look → Option String
  | .id => some handle.id
  | .name => handle.name
  | .description => handle.description
  | .display => some handle.display

variable {m : Type → Type} [Monad m] [MonadExceptOf Failure m]

/-- Keep what was given, in the place after all others; where nothing was given, nothing changes. -/
def keep (holdings : List Holding) :
    Except Failure Holding → Except Failure Answer × List Holding
  | .ok holding => (.ok (.kept holding), holdings ++ [holding])
  | .error failure => (.error failure, holdings)

/-- Take a step: what it comes to, and what is kept afterwards.  A step that is meant for something
of another kind does nothing. -/
def perform (facade : Facade m) (holdings : List Holding) :
    Step → m (Except Failure Answer × List Holding)
  | .find identifier => do
      let found ← observing (facade.id identifier)
      pure (keep holdings (found.map .handle))
  | .create group => do
      let created ← observing (facade.create group)
      pure (keep holdings (created.map .handle))
  | .list => do
      let started ← observing facade.list
      pure (keep holdings (started.map .listing))
  | .query text => do
      let started ← observing (facade.query text)
      pure (keep holdings (started.map .query))
  | .supports operation => pure (.ok (.truth (facade.supports operation)), holdings)
  | .adopt fields =>
      let adopted := Failure.ofCheck .group (Group.check fields) >>= Handle.ofGroup
      pure (keep holdings (adopted.map .handle))
  | .build place call =>
      match holdings[place]? with
      | some (.listing request) => do
          let (outcome, next) ← ListRequest.perform facade.transport.listing request call
          pure (outcome.map .listing, holdings.set place (.listing next))
      | _ => pure (.ok .nothing, holdings)
  | .inquire place call =>
      match holdings[place]? with
      | some (.query request) => do
          let (outcome, next) ← QueryRequest.perform facade.transport.query request call
          pure (outcome.map .query, holdings.set place (.query next))
      | _ => pure (.ok .nothing, holdings)
  | .look place look =>
      match holdings[place]? with
      | some (.handle known) => pure (.ok (.seen (look.at known)), holdings)
      | _ => pure (.ok .nothing, holdings)
  | .take place =>
      match holdings[place]? with
      | some (.handle known) => pure (keep holdings (.ok (.copy known.group)))
      | _ => pure (.ok .nothing, holdings)
  | .alter place group =>
      match holdings[place]? with
      | some (.copy _) => pure (.ok .nothing, holdings.set place (.copy group))
      | _ => pure (.ok .nothing, holdings)
  | .operate place operation =>
      match holdings[place]? with
      | some (.handle known) =>
          Building.ask holdings .server (known.run facade.transport operation)
      | _ => pure (.ok .nothing, holdings)

end Holding

end ReviewGroups
