/-
Module: ReviewGroups.Http.Exchange
Purpose: What happens between a client and the network: connections, requests, replies and the log.
Trusted boundary: none
Main exports: LogRecord, Event, Wire, Network, Exchange, Exchange.note, Exchange.acquire,
  Exchange.release, Exchange.transmit
-/
import ReviewGroups.Http.Message

namespace ReviewGroups.Http

/-- How much a log record matters. -/
inductive LogLevel where
  | debug
  | info
deriving Repr, Inhabited, DecidableEq

/-- The part of the library that a log record comes from. -/
inductive LogChannel where
  | http
  | transport
  | requests
  | client
deriving Repr, Inhabited, DecidableEq

/-- A line of the log. -/
structure LogRecord where
  level : LogLevel
  channel : LogChannel
  message : String
deriving Repr, Inhabited, DecidableEq

/-- What an observer of the network sees: connections that come and go, by number, and requests on
them. -/
inductive Event where
  | opened (connection : Nat)
  | closed (connection : Nat)
  | sent (connection : Nat) (request : Request)
deriving Repr, Inhabited

/-- A connection, by number; one that was closed is not used again. -/
structure Connection where
  number : Nat
  isOpen : Bool
deriving Repr, Inhabited, DecidableEq

/-- The state between two calls: what was seen so far, the log, how many replies were taken and how
many connections opened, and the connection that is held. -/
structure Wire where
  events : List Event
  log : List LogRecord
  replies : Nat
  connections : Nat
  held : Option Connection
deriving Repr, Inhabited

/-- Nothing has happened yet. -/
def Wire.fresh : Wire :=
  { events := []
    log := []
    replies := 0
    connections := 0
    held := none }

/-- The requests that were sent, in order. -/
def Wire.requests (wire : Wire) : List Request :=
  wire.events.filterMap fun event =>
    match event with
    | .sent _ request => some request
    | _ => none

/-- The held connection is open. -/
def Wire.isOpen (wire : Wire) : Bool :=
  wire.held.any Connection.isOpen

/-- What the network answers to the first request, to the second one, and so on. -/
abbrev Network := Nat → Reply

/-- A computation that talks to the network.  What happened on the wire stays when it fails. -/
def Exchange (α : Type) : Type := Network → Wire → Except Failure α × Wire

namespace Exchange

variable {α β : Type}

/-- Answer without doing anything. -/
def pure (value : α) : Exchange α := fun _ wire => (.ok value, wire)

/-- Fail without doing anything. -/
def fail (failure : Failure) : Exchange α := fun _ wire => (.error failure, wire)

/-- Go on with the answer. -/
def bind (first : Exchange α) (next : α → Exchange β) : Exchange β := fun network wire =>
  match first network wire with
  | (.ok value, wire) => next value network wire
  | (.error failure, wire) => (.error failure, wire)

/-- Do something else after a failure. -/
def handle (first : Exchange α) (next : Failure → Exchange α) : Exchange α := fun network wire =>
  match first network wire with
  | (.ok value, wire) => (.ok value, wire)
  | (.error failure, wire) => next failure network wire

instance : Monad Exchange where
  pure := Exchange.pure
  bind := Exchange.bind

instance : MonadExceptOf Failure Exchange where
  throw := Exchange.fail
  tryCatch := Exchange.handle

/-- The state of the wire. -/
def wire : Exchange Wire := fun _ wire => (.ok wire, wire)

/-- Change the state of the wire. -/
def change (f : Wire → Wire) : Exchange Unit := fun _ wire => (.ok (), f wire)

/-- Write a line of the log. -/
def note (level : LogLevel) (channel : LogChannel) (message : String) : Exchange Unit :=
  change fun wire => { wire with log := wire.log ++ [⟨level, channel, message⟩] }

/-- The number of an open connection: the one that is held, or a new one. -/
def acquire : Exchange Nat := fun _ wire =>
  match wire.held with
  | some ⟨number, true⟩ => (.ok number, wire)
  | _ =>
      let number := wire.connections
      (.ok number,
        { wire with
          events := wire.events ++ [.opened number]
          connections := number + 1
          held := some ⟨number, true⟩ })

/-- Close the connection that is held, if it is open. -/
def release : Exchange Unit :=
  change fun wire =>
    match wire.held with
    | some ⟨number, true⟩ => { wire with events := wire.events ++ [.closed number], held := none }
    | _ => wire

/-- Send a request and take the reply. -/
def transmit (connection : Nat) (request : Request) : Exchange Response := fun network wire =>
  let wire' :=
    { wire with
      events := wire.events ++ [.sent connection request]
      replies := wire.replies + 1 }
  match network wire.replies with
  | .response response => (.ok response, wire')
  | .fault fault message => (.error (fault.failure message), wire')

end Exchange

end ReviewGroups.Http
