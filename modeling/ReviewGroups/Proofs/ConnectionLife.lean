/-
Module: ReviewGroups.Proofs.ConnectionLife
Purpose: Connections over the whole of a session: at every moment at most one is open, and that is
  the one that is held; every request goes out on it; after a close none is left. The invariant is
  `Wire.IsOrderly`. Each single move of the wire keeps it, each computation is a chain of moves
  through states that are in order (`Wire.Passes`), and `Exchange.Orders` carries that through
  computations in the manner of a pre- and a postcondition. What is said of the end of a session is
  said of every moment in it, since any session can be cut short. Requests that other clients send
  at the same time are not in the picture.
Trusted boundary: none
Main exports: openConnections, Wire.IsOrderly, Wire.Moves, Wire.Passes, Exchange.Orders,
  deliver_orders, Exchange.Uses.passes, Session.connection_lifecycle
-/
import Mathlib.Logic.Relation
import ReviewGroups.Proofs.ClientUse
import ReviewGroups.Proofs.DeliveryRun
import ReviewGroups.Proofs.SessionRun

namespace ReviewGroups

namespace Http

/-! ### What was seen so far -/

/-- The open connections after one more event. -/
def Event.affect (opened : List Nat) : Event → List Nat
  | .opened connection => opened ++ [connection]
  | .closed connection => opened.erase connection
  | .sent _ _ => opened

/-- The connections that are open after what was seen, by number. -/
def openConnections (events : List Event) : List Nat := events.foldl Event.affect []

/-- The connections that ever opened, by number. -/
def openedConnections (events : List Event) : List Nat :=
  events.filterMap fun event =>
    match event with
    | .opened connection => some connection
    | _ => none

private theorem openConnections_concat (events : List Event) (event : Event) :
    openConnections (events ++ [event]) = event.affect (openConnections events) := by
  simp [openConnections]

namespace Wire

/-- The number of the connection that is held, if one is. -/
def heldNumber (wire : Wire) : List Nat := (wire.held.map Connection.number).toList

/-- The connections are in order: the open ones are the one that is held, or none; the one that is
held is open; each one has a number of its own; there was never more than one open; and every
request went out on one that was open then. -/
structure IsOrderly (wire : Wire) : Prop where
  openOnes : openConnections wire.events = wire.heldNumber
  heldOpen : ∀ connection, wire.held = some connection → connection.isOpen = true
  numbered : openedConnections wire.events = List.range wire.connections
  single : ∀ earlier, earlier <+: wire.events → (openConnections earlier).length ≤ 1
  sentOpen : ∀ earlier connection request,
    earlier ++ [.sent connection request] <+: wire.events → connection ∈ openConnections earlier

/-- No connection is open, and none is held. -/
structure IsShut (wire : Wire) : Prop where
  noneOpen : openConnections wire.events = []
  noneHeld : wire.held = none

/-- Nothing has happened yet, in good order. -/
theorem isOrderly_fresh : fresh.IsOrderly where
  openOnes := rfl
  heldOpen := by
    intro connection held
    cases held
  numbered := rfl
  single := by
    intro earlier before
    rw [List.prefix_nil.1 before]
    exact Nat.zero_le 1
  sentOpen := by
    intro earlier connection request before
    simp [fresh] at before

variable {wire next : Wire}

theorem isOpen_of_held {number : Nat} (held : wire.held = some ⟨number, true⟩) :
    wire.isOpen = true := by
  rw [isOpen, held]
  rfl

/-- Where nothing is held, nothing is open. -/
theorem IsOrderly.isShut (orderly : wire.IsOrderly) (free : wire.held = none) : wire.IsShut where
  noneOpen := by
    rw [orderly.openOnes, heldNumber, free]
    rfl
  noneHeld := free

/-- A connection that is held in good order is open. -/
theorem IsOrderly.held_cases (orderly : wire.IsOrderly) :
    wire.held = none ∨ ∃ number, wire.held = some ⟨number, true⟩ := by
  rcases held : wire.held with _ | ⟨number, isOpen⟩
  · exact .inl rfl
  · have := orderly.heldOpen _ held
    exact .inr ⟨number, by rw [show isOpen = true from this]⟩

/-! ### Single moves -/

/-- A line of the log is written. -/
def noted (record : LogRecord) (wire : Wire) : Wire := { wire with log := wire.log ++ [record] }

/-- The next connection opens, and is held. -/
def opened (wire : Wire) : Wire :=
  { wire with
    events := wire.events ++ [.opened wire.connections]
    connections := wire.connections + 1
    held := some ⟨wire.connections, true⟩ }

/-- A connection closes, and nothing is held any more. -/
def closed (number : Nat) (wire : Wire) : Wire :=
  { wire with events := wire.events ++ [.closed number], held := none }

/-- What can happen on the wire at one moment. -/
inductive Moves (wire : Wire) : Wire → Prop where
  | noted (record : LogRecord) : Moves wire (wire.noted record)
  | opened : Moves wire wire.opened
  | closed (number : Nat) : Moves wire (wire.closed number)
  | sent (connection : Nat) (request : Request) : Moves wire (wire.sent connection request)

/-- From one state of the wire another one is reached move by move, and all that lies between them
and the last one itself are in order. -/
def Passes (earlier later : Wire) : Prop :=
  Relation.ReflTransGen (fun wire next => wire.Moves next ∧ next.IsOrderly) earlier later

/-- What is passed to in good order from good order is in order. -/
theorem Passes.isOrderly {earlier later : Wire} (passes : earlier.Passes later)
    (orderly : earlier.IsOrderly) : later.IsOrderly := by
  cases passes with
  | refl => exact orderly
  | tail _ last => exact last.2

/-- One event more leaves in order what was seen before, if it does so with the connections that are
open, and if a request goes out on one of them. -/
theorem IsOrderly.of_concat {event : Event} (orderly : wire.IsOrderly)
    (seen : next.events = wire.events ++ [event])
    (openOnes : event.affect wire.heldNumber = next.heldNumber)
    (heldOpen : ∀ connection, next.held = some connection → connection.isOpen = true)
    (numbered : openedConnections next.events = List.range next.connections)
    (sentOpen : ∀ connection request, event = .sent connection request →
      connection ∈ wire.heldNumber) :
    next.IsOrderly where
  openOnes := by rw [seen, openConnections_concat, orderly.openOnes, openOnes]
  heldOpen := heldOpen
  numbered := numbered
  single := by
    intro earlier before
    rw [seen, List.prefix_concat_iff] at before
    rcases before with rfl | before
    · rw [openConnections_concat, orderly.openOnes, openOnes, heldNumber]
      cases next.held <;> simp
    · exact orderly.single earlier before
  sentOpen := by
    intro earlier connection request before
    rw [seen, List.prefix_concat_iff] at before
    rcases before with same | before
    · obtain ⟨rfl, last⟩ := List.append_inj' same rfl
      rw [orderly.openOnes]
      exact sentOpen connection request (List.singleton_inj.1 last).symm
    · exact orderly.sentOpen earlier connection request before

theorem IsOrderly.noted (orderly : wire.IsOrderly) (record : LogRecord) :
    (wire.noted record).IsOrderly :=
  ⟨orderly.openOnes, orderly.heldOpen, orderly.numbered, orderly.single, orderly.sentOpen⟩

/-- Where nothing is held, a connection can open in good order. -/
theorem IsOrderly.opened (orderly : wire.IsOrderly) (free : wire.held = none) :
    wire.opened.IsOrderly := by
  apply orderly.of_concat rfl
  case openOnes =>
      rw [heldNumber, free]
      rfl
  case heldOpen =>
      intro connection held
      cases held
      rfl
  case numbered =>
      change openedConnections (wire.events ++ [.opened wire.connections]) = _
      have before := orderly.numbered
      unfold openedConnections at before ⊢
      rw [List.filterMap_append, before]
      exact List.range_succ.symm
  case sentOpen =>
      intro connection request same
      cases same

/-- The connection that is held can close in good order. -/
theorem IsOrderly.closed {number : Nat} (orderly : wire.IsOrderly)
    (held : wire.held = some ⟨number, true⟩) : (wire.closed number).IsOrderly := by
  apply orderly.of_concat rfl
  case openOnes =>
      rw [heldNumber, held]
      change [number].erase number = []
      simp
  case heldOpen =>
      intro connection held
      cases held
  case numbered =>
      change openedConnections (wire.events ++ [.closed number]) = _
      have before := orderly.numbered
      unfold openedConnections at before ⊢
      rw [List.filterMap_append, before]
      exact List.append_nil _
  case sentOpen =>
      intro connection request same
      cases same

/-- A request can go out in good order on the connection that is held. -/
theorem IsOrderly.sent {number : Nat} (orderly : wire.IsOrderly)
    (held : wire.held = some ⟨number, true⟩) (request : Request) :
    (wire.sent number request).IsOrderly := by
  apply orderly.of_concat rfl
  case openOnes => rfl
  case heldOpen => exact orderly.heldOpen
  case numbered =>
      change openedConnections (wire.events ++ [.sent number request]) = _
      have before := orderly.numbered
      unfold openedConnections at before ⊢
      rw [List.filterMap_append, before]
      exact List.append_nil _
  case sentOpen =>
      intro connection other same
      cases same
      rw [heldNumber, held]
      exact List.mem_singleton_self number

end Wire

/-! ### Computations -/

namespace Exchange

variable {α β : Type} {before : Wire → Prop} {between : α → Wire → Prop} {after : β → Wire → Prop}

/-- Where the connections are in order and `before` holds, a computation passes through good order
only, and where it answers `after` holds. -/
def Orders (before : Wire → Prop) (computation : Exchange α) (after : α → Wire → Prop) : Prop :=
  ∀ network wire, wire.IsOrderly → before wire →
    wire.Passes (computation network wire).2 ∧
      ∀ value ended, computation network wire = (.ok value, ended) → after value ended

/-- To answer keeps the order. -/
theorem orders_pure {value : β} (implies : ∀ wire, before wire → after value wire) :
    Orders before (Pure.pure value : Exchange β) after := by
  intro network wire orderly held
  refine ⟨.refl, ?_⟩
  intro other ended answered
  cases answered
  exact implies wire held

/-- To fail keeps the order. -/
theorem orders_throw (failure : Failure) : Orders before (throw failure : Exchange β) after := by
  intro network wire orderly held
  refine ⟨.refl, ?_⟩
  intro other ended answered
  cases answered

/-- To go on with a result that is there keeps the order. -/
theorem orders_orThrow (result : Except Failure β) :
    Orders before (Failure.orThrow result : Exchange β) fun _ => before := by
  cases result with
  | error failure => exact orders_throw failure
  | ok value => exact orders_pure fun _ held => held

/-- One computation after another keeps the order if each does. -/
theorem Orders.bind {first : Exchange α} {next : α → Exchange β}
    (orders : Orders before first between)
    (ordersToo : ∀ value, Orders (between value) (next value) after) :
    Orders before (first >>= next) after := by
  intro network wire orderly held
  obtain ⟨passes, answers⟩ := orders network wire orderly held
  rcases reached : first network wire with ⟨failure | value, middle⟩
  · rw [reached] at passes
    rw [bind_of_error reached]
    refine ⟨passes, ?_⟩
    intro other ended answered
    cases answered
  · rw [reached] at passes
    rw [bind_of_ok reached]
    obtain ⟨further, answersToo⟩ :=
      ordersToo value network middle (passes.isOrderly orderly) (answers value middle reached)
    exact ⟨passes.trans further, answersToo⟩

/-- What is done after a failure keeps the order if each part does. -/
theorem orders_tryCatch {first : Exchange β} {next : Failure → Exchange β}
    (orders : Orders (fun _ => True) first fun _ _ => True)
    (ordersToo : ∀ failure, Orders (fun _ => True) (next failure) fun _ _ => True) :
    Orders (fun _ => True) (tryCatch first next : Exchange β) fun _ _ => True := by
  intro network wire orderly held
  obtain ⟨passes, -⟩ := orders network wire orderly held
  refine ⟨?_, fun _ _ _ => trivial⟩
  rcases reached : first network wire with ⟨failure | value, middle⟩
  · rw [reached] at passes
    rw [tryCatch_of_error reached]
    exact passes.trans (ordersToo failure network middle (passes.isOrderly orderly) trivial).1
  · rw [reached] at passes
    rw [tryCatch_of_ok reached]
    exact passes

theorem Orders.forget {computation : Exchange β} (orders : Orders before computation after) :
    Orders before computation fun _ _ => True := by
  intro network wire orderly held
  exact ⟨(orders network wire orderly held).1, fun _ _ _ => trivial⟩

/-- A line of the log changes nothing about connections. -/
theorem orders_note (held : Option Connection) (level : LogLevel) (channel : LogChannel)
    (message : String) :
    Orders (fun wire => wire.held = held) (note level channel message) fun _ wire =>
      wire.held = held := by
  intro network wire orderly same
  refine ⟨.single ⟨.noted _, orderly.noted _⟩, ?_⟩
  intro value ended answered
  cases answered
  exact same

/-- A connection that is acquired is held and open. -/
theorem orders_acquire :
    Orders (fun _ => True) acquire fun number wire => wire.held = some ⟨number, true⟩ := by
  intro network wire orderly _
  unfold acquire
  rcases orderly.held_cases with free | ⟨number, held⟩
  · rw [free]
    refine ⟨.single ⟨.opened, orderly.opened free⟩, ?_⟩
    intro value ended answered
    cases answered
    rfl
  · rw [held]
    refine ⟨.refl, ?_⟩
    intro value ended answered
    cases answered
    exact held

/-- Where a connection is let go, nothing is held. -/
theorem orders_release : Orders (fun _ => True) release fun _ wire => wire.held = none := by
  intro network wire orderly _
  unfold release change
  rcases orderly.held_cases with free | ⟨number, held⟩
  · simp only [free]
    refine ⟨.refl, ?_⟩
    intro value ended answered
    cases answered
    exact free
  · simp only [held]
    refine ⟨.single ⟨.closed number, orderly.closed held⟩, ?_⟩
    intro value ended answered
    cases answered
    rfl

/-- A request that goes out on the connection that is held leaves it held. -/
theorem orders_transmit (number : Nat) (request : Request) :
    Orders (fun wire => wire.held = some ⟨number, true⟩) (transmit number request)
      fun _ wire => wire.held = some ⟨number, true⟩ := by
  intro network wire orderly held
  have sent : (transmit number request network wire).2 = wire.sent number request := by
    unfold transmit
    cases network wire.replies <;> rfl
  rw [sent]
  refine ⟨.single ⟨.sent number request, orderly.sent held request⟩, ?_⟩
  intro value ended answered
  rw [answered] at sent
  rw [show ended = _ from sent]
  exact held

end Exchange

open Exchange

/-- A request and the requests that redirects lead to go out on the connection that is held. -/
theorem deliver_orders (number left : Nat) (request : Request) :
    Orders (fun wire => wire.held = some ⟨number, true⟩) (deliver number left request)
      fun _ wire => wire.held = some ⟨number, true⟩ := by
  induction left generalizing request with
  | zero =>
      refine (orders_transmit number request).bind fun response => ?_
      refine (orders_orThrow _).bind fun next? => ?_
      cases next? with
      | none => exact orders_pure fun _ held => held
      | some next => exact orders_throw _
  -- Here alone something else is sent, on the connection that is still held.
  | succ left inductionHypothesis =>
      refine (orders_transmit number request).bind fun response => ?_
      refine (orders_orThrow _).bind fun next? => ?_
      cases next? with
      | none => exact orders_pure fun _ held => held
      | some next => exact inductionHypothesis next

/-- A client that connects holds an open connection. -/
theorem connect_orders (client : Client) :
    Orders (fun _ => True) (connect client) fun reached wire =>
      wire.held = some ⟨reached.1, true⟩ := by
  refine (orders_orThrow _).bind fun _ => ?_
  refine (orders_orThrow _).bind fun _ => ?_
  exact orders_acquire.bind fun _ => orders_pure fun _ held => held

/-- A client that cannot connect has times to wait or an address that cannot be worked with. -/
theorem connect_eq_error {client : Client} {network : Network} {wire ended : Wire}
    {failure : Failure} (failed : connect client network wire = (.error failure, ended)) :
    client.patience = .error failure ∨ client.base = .error failure := by
  cases patient : client.patience with
  | error other =>
      have stopped : connect client network wire = (.error other, wire) := by
        unfold connect
        rw [patient]
        rfl
      rw [stopped] at failed
      cases failed
      exact .inl rfl
  | ok time =>
      cases isBase : client.base with
      | error other =>
          have stopped : connect client network wire = (.error other, wire) := by
            unfold connect
            rw [patient, isBase]
            rfl
          rw [stopped] at failed
          cases failed
          exact .inr rfl
      | ok base =>
          obtain ⟨number, middle, connected, -⟩ := exchanged_connect patient isBase network wire
          rw [connected] at failed
          cases failed

/-- Whatever a client sends goes out on the connection that it holds then. -/
theorem send_orders (client : Client) (intent : Intent) :
    Orders (fun _ => True) (send client intent) fun _ _ => True := by
  refine (connect_orders client).bind fun reached => ?_
  refine (orders_orThrow _).bind fun line => ?_
  refine (orders_note _ _ _ _).bind fun _ => ?_
  refine (orders_orThrow _).bind fun request => ?_
  refine (deliver_orders reached.1 redirectLimit request).bind fun response => ?_
  split
  · exact orders_pure fun _ _ => trivial
  · exact orders_throw _

/-- Whatever is done with a client keeps the connections in order. -/
theorem Exchange.Uses.orders {α : Type} {computation : Client → Exchange α}
    (uses : Uses computation) (client : Client) :
    Orders (fun _ => True) (computation client) fun _ _ => True := by
  induction uses with
  | view blind => exact orders_pure fun _ _ => trivial
  | throw failure => exact orders_throw failure
  | note level channel message =>
      intro network wire orderly _
      exact (orders_note wire.held level channel message).forget network wire orderly rfl
  | release => exact orders_release.forget
  | connect => exact (connect_orders client).forget
  | send intent => exact send_orders client intent
  | bind _ _ first next => exact first.bind next
  | tryCatch _ _ first next => exact orders_tryCatch first next

theorem isShut_release {network : Network} {wire : Wire} (orderly : wire.IsOrderly) :
    (release network wire).2.IsShut := by
  obtain ⟨passes, answers⟩ := orders_release network wire orderly trivial
  exact (passes.isOrderly orderly).isShut (answers () _ rfl)

end Http

open Http (Exchange Network Wire connect connect_eq_error connect_orders)

/-! ### Sessions -/

namespace Session

/-- A step closes a client or its network access, or leaves one of them. -/
def Step.IsClosing : Step → Prop
  | .close | .leave _ | .http .close | .http (.leave _) => True
  | _ => False

/-- After a step that closes, nothing is open, also if a failure was underway. -/
theorem isShut_of_isClosing (client : ReviewClient) (holdings : List Holding) {step : Step}
    (closing : step.IsClosing) {network : Network} {wire : Wire} (orderly : wire.IsOrderly) :
    (perform client holdings step network wire).2.IsShut := by
  have shut : (Exchange.release network wire).2.IsShut := Http.isShut_release orderly
  cases step with
  | close => exact ⟨shut.noneOpen, shut.noneHeld⟩
  | leave raised => cases raised <;> exact ⟨shut.noneOpen, shut.noneHeld⟩
  | http call =>
      cases call with
      | close => exact shut
      | leave raised => cases raised <;> exact shut
      | _ => exact closing.elim
  | _ => exact closing.elim

/-- A client that is entered holds an open connection, unless its address or its times cannot be
worked with. -/
theorem isOpen_of_enter (client : ReviewClient) (holdings : List Holding) {network : Network}
    {wire : Wire} (orderly : wire.IsOrderly) :
    (perform client holdings (.http .enter) network wire).2.isOpen = true ∨
      ∃ failure,
        (perform client holdings (.http .enter) network wire).1 = .ok (.error failure, holdings) ∧
          (client.http.patience = .error failure ∨ client.http.base = .error failure) := by
  rcases reached : connect client.http network wire with ⟨failure | ⟨number, base⟩, middle⟩
  · have stopped : client.http.perform .enter network wire = (.error failure, middle) :=
      Exchange.bind_of_error reached
    have failed : perform client holdings (.http .enter) network wire =
        (.ok (.error failure, holdings), middle) :=
      Building.ask_eq stopped
    rw [failed]
    exact .inr ⟨failure, rfl, connect_eq_error reached⟩
  · have entered : client.http.perform .enter network wire = (.ok .nothing, middle) :=
      Exchange.bind_of_ok reached
    have answered : perform client holdings (.http .enter) network wire =
        (.ok (.ok (.http .nothing), holdings), middle) :=
      Building.ask_eq entered
    have held := ((connect_orders client.http) network wire orderly trivial).2 _ _ reached
    rw [answered]
    exact .inl (Wire.isOpen_of_held held)

/-- Over a whole session, whatever is done in it and whatever comes of each step: the connections
are in order at every moment.  From where the session ends, a step that closes leaves nothing open,
and to enter the client leaves a connection open. -/
theorem connection_lifecycle (client : ReviewClient) (network : Network) (steps : List Step) :
    ∃ outcomes holdings wire,
      run client [] steps network .fresh = (.ok (outcomes, holdings), wire) ∧
      outcomes.length = steps.length ∧
      Wire.fresh.Passes wire ∧ wire.IsOrderly ∧
      (∀ step, step.IsClosing → (perform client holdings step network wire).2.IsShut) ∧
      ((perform client holdings (.http .enter) network wire).2.isOpen = true ∨
        ∃ failure,
          (perform client holdings (.http .enter) network wire).1 =
              .ok (.error failure, holdings) ∧
            (client.http.patience = .error failure ∨ client.http.base = .error failure)) := by
  obtain ⟨outcomes, holdings, wire, ran, counted, -⟩ :=
    exists_run_of_keeps (fun _ => True) trivial (fun _ held => held) steps network .fresh
  have orders := (uses_run client.baseUrl [] steps).orders client.http
  obtain ⟨passes, -⟩ := orders network .fresh Wire.isOrderly_fresh trivial
  rw [show run ⟨client.baseUrl, client.http⟩ [] steps network .fresh = _ from ran] at passes
  have orderly := passes.isOrderly Wire.isOrderly_fresh
  exact ⟨outcomes, holdings, wire, ran, counted, passes, orderly,
    fun step closing => isShut_of_isClosing client holdings closing orderly,
    isOpen_of_enter client holdings orderly⟩

end Session

end ReviewGroups
