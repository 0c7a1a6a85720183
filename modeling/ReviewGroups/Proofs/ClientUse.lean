/-
Module: ReviewGroups.Proofs.ClientUse
Purpose: What a computation can do with the client that it is given: whichever way is taken, from
  the facade down to a single call, it connects, sends, releases and writes lines of the log, and
  all that it looks at besides is the same for every password. `Exchange.Uses` is a relation with
  one constructor for each of these; the proofs follow the definitions of the calls, layer by layer.
  Facts about whole sessions (passwords, connections, servers) are then inductions on this relation
  with one case for each constructor, and need no look at the calls.
Trusted boundary: none
Main exports: Client.Alike, Exchange.Uses, Client.uses_perform, Holding.uses_perform,
  Session.uses_perform, Session.uses_run
-/
import ReviewGroups.Session

namespace ReviewGroups

namespace Http

/-- Two clients differ in their passwords at most. -/
structure Client.Alike (client other : Client) : Prop where
  baseUrl : client.baseUrl = other.baseUrl
  timeout : client.timeout = other.timeout
  headers : client.headers = other.headers
  username : client.credentials.map Prod.fst = other.credentials.map Prod.fst

namespace Client.Alike

variable {client other : Client}

private theorem isAuthenticated_eq (alike : client.Alike other) :
    client.isAuthenticated = other.isAuthenticated := by
  have same := congrArg Option.isSome alike.username
  rwa [Option.isSome_map, Option.isSome_map] at same

theorem buildPath_eq (alike : client.Alike other) (path : String) :
    client.buildPath path = other.buildPath path := by
  unfold buildPath
  rw [alike.isAuthenticated_eq]

theorem buildHeaders_eq (alike : client.Alike other) (extra : Keyed Value) :
    client.buildHeaders extra = other.buildHeaders extra := by
  unfold buildHeaders
  rw [alike.headers]

end Client.Alike

/-- A computation does nothing with its client but connect, send, and look at what no password
changes; besides it writes lines of the log and lets the connection go. -/
inductive Exchange.Uses : {α : Type} → (Client → Exchange α) → Prop where
  | view {α : Type} {view : Client → α}
      (blind : ∀ client other, client.Alike other → view client = view other) :
      Uses fun client => (Pure.pure (view client) : Exchange α)
  | throw {α : Type} (failure : Failure) : Uses fun _ => (throw failure : Exchange α)
  | note (level : LogLevel) (channel : LogChannel) (message : String) :
      Uses fun _ => Exchange.note level channel message
  | release : Uses fun _ => Exchange.release
  | connect : Uses connect
  | send (intent : Intent) : Uses fun client => send client intent
  | bind {α β : Type} {first : Client → Exchange α} {next : Client → α → Exchange β}
      (uses : Uses first) (usesToo : ∀ value, Uses fun client => next client value) :
      Uses fun client => first client >>= next client
  | tryCatch {α : Type} {first : Client → Exchange α} {next : Client → Failure → Exchange α}
      (uses : Uses first) (usesToo : ∀ failure, Uses fun client => next client failure) :
      Uses fun client => tryCatch (first client) (next client)

namespace Exchange

variable {α : Type}

theorem Uses.pure (value : α) : Uses fun _ => (Pure.pure value : Exchange α) :=
  .view fun _ _ _ => rfl

/-- To go on with a result that is there is a use. -/
theorem Uses.orThrow (result : Except Failure α) :
    Uses fun _ => (Failure.orThrow result : Exchange α) := by
  cases result with
  | error failure => exact .throw failure
  | ok value => exact .pure value

theorem Uses.observing {computation : Client → Exchange α} (uses : Uses computation) :
    Uses fun client => (observing (computation client) : Exchange _) :=
  .tryCatch (.bind uses fun _ => .pure _) fun _ => .pure _

/-- To go on with a failure that is underway is a use. -/
theorem uses_goOn (raised : Option Failure) : Uses fun _ => goOn raised := by
  cases raised with
  | none => exact .pure ()
  | some failure => exact .throw failure

end Exchange

open Exchange (Uses)

/-! ### Calls on the client itself -/

/-- To read the text of a response is a use. -/
theorem uses_readBody (response : Response) (decode : String → Except Failure Json) :
    Uses fun _ => readBody response decode := by
  unfold readBody
  split
  · exact .orThrow _
  · exact .throw _

/-- To read a part of a call as text is a use: at most the client connects. -/
theorem uses_readText (operation : String) (value : Value) :
    Uses fun client => readText client operation value := by
  cases value with
  | text s => exact .pure s
  | option o => exact .pure o.name
  | _ => exact .bind .connect fun _ => .throw _

/-- To fetch and decode is a use. -/
theorem uses_getJson (path : String) (parameters : Value) :
    Uses fun client => getJson client path parameters :=
  .bind (.send _) fun response => uses_readBody response decodeJson

/-- To put a body in place is a use. -/
theorem uses_putJson (path : String) (body : Value) :
    Uses fun client => putJson client path body :=
  .bind (.send _) fun response => uses_readBody response decodeOptional

/-- To post a body is a use. -/
theorem uses_postJson (path : String) (body : Value) :
    Uses fun client => postJson client path body :=
  .bind (.send _) fun response => uses_readBody response decodeOptional

/-- To delete is a use. -/
theorem uses_delete (path : String) : Uses fun client => delete client path :=
  .bind (.send _) fun _ => .pure ()

/-- Whatever is asked of a client directly is a use of it. -/
theorem Client.uses_perform (call : Client.Call) : Uses fun client => client.perform call := by
  cases call with
  | path path =>
      simp only [perform]
      split
      · exact .view fun _ _ alike => congrArg Client.Answer.path (alike.buildPath_eq _)
      · exact .throw _
  | headers extra =>
      exact .view fun _ _ alike => congrArg Client.Answer.headers (alike.buildHeaders_eq extra)
  | request method path parameters body headers =>
      exact .bind (uses_readText _ path) fun _ => .bind (.send _) fun _ => .pure _
  | getJson path parameters =>
      exact .bind (uses_readText _ path) fun _ => .bind (uses_getJson _ _) fun _ => .pure _
  | putJson path body =>
      exact .bind (uses_readText _ path) fun _ => .bind (uses_putJson _ _) fun _ => .pure _
  | postJson path body =>
      exact .bind (uses_readText _ path) fun _ => .bind (uses_postJson _ _) fun _ => .pure _
  | delete path =>
      exact .bind (uses_readText _ path) fun _ => .bind (uses_delete _) fun _ => .pure _
  | enter => exact .bind .connect fun _ => .pure _
  | leave raised => exact .bind .release fun _ => .bind (Exchange.uses_goOn raised) fun _ => .pure _
  | close => exact .bind .release fun _ => .pure _

end Http

open Http (Client Exchange)
open Http.Exchange (Uses)

/-! ### Calls on the transport -/

namespace Rest

/-- To send the request of a task and decode the answer is a use. -/
theorem Task.uses_exchange (task : Task) : Uses fun client => task.exchange client := by
  refine .bind (.send _) fun response => ?_
  cases task.method with
  | get => exact Http.uses_readBody response Http.decodeJson
  | put => exact Http.uses_readBody response Http.decodeOptional
  | post => exact Http.uses_readBody response Http.decodeOptional
  | delete => exact .pure _

theorem Task.uses_fetch (task : Task) : Uses fun client => task.fetch client :=
  .tryCatch task.uses_exchange fun _ => .throw _

/-- To carry out a call is a use. -/
theorem uses_perform (call : Call) : Uses fun client => perform client call :=
  .bind (.orThrow _) fun task => .bind task.uses_fetch fun _ => .orThrow _

/-- To look a group up is a use. -/
theorem uses_resolve (identifier : Value) : Uses fun client => resolve client identifier :=
  .bind (.orThrow _) fun task => .bind task.uses_fetch fun _ => .orThrow _

/-- To create a group is a use. -/
theorem uses_create (input : Value) : Uses fun client => create client input :=
  .bind (.orThrow _) fun task =>
    .bind task.uses_fetch fun _ => .bind (.note _ _ _) fun _ => .orThrow _

/-- To list groups is a use. -/
theorem uses_listGroups (filter : ListFilter) : Uses fun client => listGroups client filter :=
  .bind (Task.listGroups filter).uses_fetch fun _ => .orThrow _

/-- To query groups is a use. -/
theorem uses_queryGroups (filter : QueryFilter) : Uses fun client => queryGroups client filter :=
  .bind (Task.queryGroups filter).uses_fetch fun _ => .orThrow _

end Rest

/-! ### Calls on what is kept -/

namespace Building

variable {σ κ α β : Type}

/-- To ask a source for something is a use if the question is one. -/
theorem uses_ask (state : σ) (answer : β → α) {question : Client → Exchange β}
    (uses : Uses question) : Uses fun client => ask state answer (question client) :=
  .bind uses.observing fun _ => .pure _

/-- To make calls one after the other is a use if each of them is. -/
theorem uses_run {perform : Client → σ → κ → Exchange (Except Failure α × σ)}
    (uses : ∀ state call, Uses fun client => perform client state call) (state : σ)
    (calls : List κ) : Uses fun client => run (perform client) state calls := by
  induction calls generalizing state with
  | nil => exact .pure _
  | cons call calls inductionHypothesis =>
      refine .bind (uses state call) fun reached => ?_
      exact .bind (inductionHypothesis reached.2) fun _ => .pure _

end Building

/-- Whatever is asked of a listing is a use. -/
theorem ListRequest.uses_perform (request : ListRequest) (call : ListRequest.Call) :
    Uses fun client => perform (Rest.transport client).listing request call := by
  have asMap : Uses fun client => getAsMap (Rest.transport client).listing request :=
    .bind (.orThrow _) fun filter => Rest.uses_listGroups filter
  cases call with
  | change step | state => exact .pure _
  | getAsMap => exact Building.uses_ask request _ asMap
  | get =>
      refine Building.uses_ask request _ (.bind asMap fun groups => ?_)
      exact .bind (.note _ _ _) fun _ => .pure _

/-- Whatever is asked of a query is a use. -/
theorem QueryRequest.uses_perform (request : QueryRequest) (call : QueryRequest.Call) :
    Uses fun client => perform (Rest.transport client).query request call := by
  cases call with
  | change step | state => exact .pure _
  | get =>
      refine Building.uses_ask request _ (.bind (.orThrow _) fun filter => ?_)
      exact Rest.uses_queryGroups filter

theorem Facade.uses_require (operation : Facade.Operation) :
    Uses fun client => (full (Rest.transport client)).require operation := by
  cases operation <;> exact .pure ()

/-- Whatever is done with the facade and with what is kept is a use. -/
theorem Holding.uses_perform (holdings : List Holding) (step : Holding.Step) :
    Uses fun client => perform (Facade.full (Rest.transport client)) holdings step := by
  cases step with
  | find identifier =>
      refine .bind (Uses.observing (.bind (Facade.uses_require .id) fun _ => ?_)) fun _ => .pure _
      exact .bind (Rest.uses_resolve identifier) fun _ => .orThrow _
  | create group =>
      refine .bind (Uses.observing (.bind (Facade.uses_require .create) fun _ => ?_)) fun _ =>
        .pure _
      exact .bind (Rest.uses_create _) fun _ => .orThrow _
  | list =>
      have started : Uses fun client => (Facade.full (Rest.transport client)).list :=
        .bind (Facade.uses_require .list) fun _ => .pure _
      exact .bind started.observing fun _ => .pure _
  | query text =>
      have started : Uses fun client => (Facade.full (Rest.transport client)).query text :=
        .bind (Facade.uses_require .query) fun _ => .pure _
      exact .bind started.observing fun _ => .pure _
  | supports operation =>
      let known := (Facade.Operation.ofName? operation).any (· ∈ Facade.Operation.all)
      exact .pure (Except.ok (Answer.truth known), holdings)
  | adopt fields => exact .pure _
  | build place call =>
      simp only [perform]
      split
      · exact .bind (ListRequest.uses_perform _ call) fun _ => .pure _
      · exact .pure _
  | inquire place call =>
      simp only [perform]
      split
      · exact .bind (QueryRequest.uses_perform _ call) fun _ => .pure _
      · exact .pure _
  | look place look | take place | alter place group =>
      simp only [perform]
      split <;> exact .pure _
  | operate place operation =>
      simp only [perform]
      split
      · exact Building.uses_ask holdings _ (Rest.uses_perform _)
      · exact .pure _

/-! ### Sessions -/

namespace Session

variable (baseUrl : String) (holdings : List Holding)

/-- To close a client is a use. -/
theorem uses_close : Uses fun client => (ReviewClient.mk baseUrl client).close :=
  .bind .release fun _ => .note .info .client s!"Closed client for {baseUrl}"

private theorem describe_eq {client other : Client} (alike : client.Alike other) :
    describe ⟨baseUrl, client⟩ = describe ⟨baseUrl, other⟩ := by
  unfold describe ReviewClient.display
  rw [alike.isAuthenticated_eq, alike.baseUrl, alike.timeout]

/-- Every step of a session is a use of its client. -/
theorem uses_perform (step : Step) :
    Uses fun client => perform ⟨baseUrl, client⟩ holdings step := by
  cases step with
  | hold step => exact .bind (Holding.uses_perform holdings step) fun _ => .pure _
  | resolve identifier => exact Building.uses_ask holdings _ (Rest.uses_resolve identifier)
  | createGroup input => exact Building.uses_ask holdings _ (Rest.uses_create input)
  | listGroups filter =>
      exact Building.uses_ask holdings _ (.bind (.orThrow _) fun _ => Rest.uses_listGroups _)
  | queryGroups filter =>
      exact Building.uses_ask holdings _ (.bind (.orThrow _) fun _ => Rest.uses_queryGroups _)
  | perform call => exact Building.uses_ask holdings _ (Rest.uses_perform call)
  | http call => exact Building.uses_ask holdings _ (Client.uses_perform call)
  | enter => exact .pure _
  | leave raised =>
      refine Building.uses_ask holdings _ (.bind (uses_close baseUrl) fun _ => ?_)
      exact Http.Exchange.uses_goOn raised
  | close => exact Building.uses_ask holdings _ (uses_close baseUrl)
  | describe =>
      exact .view fun _ _ alike => by rw [describe_eq baseUrl alike]

/-- Every run of a session is a use of its client. -/
theorem uses_run (steps : List Step) :
    Uses fun client => run ⟨baseUrl, client⟩ holdings steps :=
  Building.uses_run (fun holdings step => uses_perform baseUrl holdings step) holdings steps

end Session

end ReviewGroups
