/-
Module: ReviewGroups.Proofs.HiddenPassword
Purpose: What a password can be seen in: two sessions that differ in the password alone answer the
  same, write the same log and send the same requests, but for the value of one header. Two
  computations are run side by side, from wires that show the same once that value is struck out
  (`AgreesWith`), and come to the same (`Agree`). The only place where the passwords could make a
  difference is the header itself; all that is done with clients goes through `ClientUse`. Without a
  user name the two clients are equal.
Trusted boundary: none
Main exports: Request.redact, Wire.AgreesWith, Exchange.Agree, deliver_agree, send_agree,
  Exchange.Uses.agree, Session.password_hidden
-/
import ReviewGroups.Proofs.ClientUse
import ReviewGroups.Proofs.ExchangeRun
import ReviewGroups.Proofs.FirstRequest
import ReviewGroups.Proofs.HeaderNames

namespace ReviewGroups

namespace Http

/-! ### Headers without the proof of who asks -/

namespace Header

/-- A header with its value struck out if it proves who asks. -/
def redact (header : Header) : Header :=
  if headerKey header.1 = proofKey then (header.1, "") else header

@[simp] theorem redact_name (header : Header) : header.redact.1 = header.1 := by
  unfold redact
  split <;> rfl

private theorem redact_of_ne {name value : String} (other : headerKey name ≠ proofKey) :
    redact (name, value) = (name, value) :=
  if_neg other

variable (name value : String) (headers : List Header)

private theorem has_redact : has name (headers.map redact) = has name headers := by
  simp [has, List.any_map, Function.comp_def]

private theorem drop_redact : drop name (headers.map redact) = (drop name headers).map redact := by
  simp [drop, List.filter_map, Function.comp_def]

private theorem set_redact :
    (set name value headers).map redact =
      set name (redact (name, value)).2 (headers.map redact) := by
  have same : ((name, (redact (name, value)).2) : Header) = redact (name, value) :=
    Prod.ext (redact_name (name, value)).symm rfl
  unfold set
  rw [has_redact, same]
  split
  · simp [List.takeWhile_map, Function.comp_def, ← List.map_drop, drop_redact]
  · simp

private theorem set_proof (other : String) (same : headerKey name = proofKey) :
    (set name value headers).map redact = (set name other headers).map redact := by
  rw [set_redact, set_redact, redact, redact, if_pos same, if_pos same]

end Header

/-- A request with the proof of who asks struck out. -/
def Request.redact (request : Request) : Request :=
  { request with headers := request.headers.map Header.redact }

/-- An event with the proof of who asks struck out. -/
def Event.redact : Event → Event
  | .sent connection request => .sent connection request.redact
  | event => event

/-! ### Redirects -/

/-- The headers after a redirect do not depend on what is struck out. -/
theorem redirectHeaders_redact (request : Request) (address : Url.Address) (method : String) :
    redirectHeaders request.redact address method =
      (redirectHeaders request address method).map fun headers => headers.map Header.redact := by
  have sameAddress : request.redact.address = request.address := rfl
  have sameMethod : request.redact.method = request.method := rfl
  have sameHeaders : request.redact.headers = request.headers.map Header.redact := rfl
  unfold redirectHeaders
  rw [sameAddress, sameMethod, sameHeaders]
  cases Url.Address.sameOrigin address request.address with
  | error fault => rfl
  | ok same =>
      cases same with
      | true =>
          split <;>
            simp only [bind, Except.bind, pure, Except.pure, Except.map, Header.drop_redact,
              if_true]
      | false =>
          have set (headers : List Header) :
              Header.set "Host" (String.ofList address.location) (headers.map Header.redact) =
                (Header.set "Host" (String.ofList address.location) headers).map Header.redact := by
            rw [Header.set_redact, Header.redact_of_ne (by decide)]
          cases Url.Address.isUpgrade request.address address with
          | error fault => rfl
          | ok upgrade =>
              cases upgrade <;> split <;>
                simp [bind, Except.bind, pure, Except.pure, Except.map, Header.drop_redact, set]

/-- The request that a redirect leads to does not depend on what is struck out. -/
theorem redirect_redact (request : Request) (status : Int) (location : String) :
    request.redact.redirect status location =
      (request.redirect status location).map Request.redact := by
  have sameAddress : request.redact.address = request.address := rfl
  have sameMethod : request.redact.method = request.method := rfl
  unfold Request.redirect
  rw [sameAddress, sameMethod]
  cases redirectAddress request.address location with
  | error failure => rfl
  | ok address =>
      dsimp only [bind, Except.bind]
      rw [redirectHeaders_redact]
      cases redirectHeaders request address (redirectMethod status request.method) with
      | error fault => rfl
      | ok headers => rfl

/-- What a reply leads to does not depend on what is struck out. -/
theorem nextRequest?_redact (request : Request) (response : Response) :
    nextRequest? request.redact response =
      (nextRequest? request response).map fun next? => next?.map Request.redact := by
  have sameAddress : request.redact.address = request.address := rfl
  unfold nextRequest?
  rw [sameAddress]
  split
  · rfl
  · split
    · rfl
    · rw [redirect_redact]
      cases request.redirect response.status _ <;> rfl

/-! ### Two computations side by side -/

/-- Two states of the wire show the same, but for the proof of who asks. -/
structure Wire.AgreesWith (wire other : Wire) : Prop where
  events : wire.events.map Event.redact = other.events.map Event.redact
  log : wire.log = other.log
  replies : wire.replies = other.replies
  connections : wire.connections = other.connections
  held : wire.held = other.held

/-- The request of an event, if one was sent. -/
def Event.request? : Event → Option Request
  | .sent _ request => some request
  | _ => none

theorem Event.request?_redact (event : Event) :
    event.redact.request? = event.request?.map Request.redact := by
  cases event <;> rfl

theorem Wire.requests_eq (wire : Wire) : wire.requests = wire.events.filterMap Event.request? := by
  unfold requests
  congr

/-- Two states of the wire that show the same have seen the same requests, but for the proof of who
asks. -/
theorem Wire.AgreesWith.requests {wire other : Wire} (agrees : wire.AgreesWith other) :
    wire.requests.map Request.redact = other.requests.map Request.redact := by
  have struck (events : List Event) : (events.filterMap Event.request?).map Request.redact =
      (events.map Event.redact).filterMap Event.request? := by
    rw [List.map_filterMap, List.filterMap_map]
    exact congrArg (List.filterMap · events) (funext fun event => event.request?_redact.symm)
  rw [requests_eq, requests_eq, struck, struck, agrees.events]

namespace Exchange

variable {α β : Type}

/-- Two computations come to the same on every network, from states of the wire that show the same:
the same result, and states that show the same again. -/
def Agree (first second : Exchange α) : Prop :=
  ∀ network wire other, wire.AgreesWith other →
    (first network wire).1 = (second network other).1 ∧
      (first network wire).2.AgreesWith (second network other).2

theorem agree_pure (value : α) : Agree (Pure.pure value) (Pure.pure value) :=
  fun _ _ _ agrees => ⟨rfl, agrees⟩

theorem agree_throw (failure : Failure) : Agree (throw failure : Exchange α) (throw failure) :=
  fun _ _ _ agrees => ⟨rfl, agrees⟩

/-- The same result is one. -/
theorem agree_orThrow (result : Except Failure α) :
    Agree (Failure.orThrow result) (Failure.orThrow result) := by
  cases result with
  | error failure => exact agree_throw failure
  | ok value => exact agree_pure value

/-- Two computations come to the same if each part of the one does what that of the other does. -/
theorem Agree.bind {first second : Exchange α} {next nextToo : α → Exchange β}
    (agree : Agree first second) (agreeToo : ∀ value, Agree (next value) (nextToo value)) :
    Agree (first >>= next) (second >>= nextToo) := by
  intro network wire other agrees
  obtain ⟨same, after⟩ := agree network wire other agrees
  rcases reached : first network wire with ⟨failure | value, middle⟩
  · rcases reachedToo : second network other with ⟨result, middleToo⟩
    rw [reached, reachedToo] at same after
    cases same
    rw [bind_of_error reached, bind_of_error reachedToo]
    exact ⟨rfl, after⟩
  · rcases reachedToo : second network other with ⟨result, middleToo⟩
    rw [reached, reachedToo] at same after
    cases same
    rw [bind_of_ok reached, bind_of_ok reachedToo]
    exact agreeToo value network middle middleToo after

/-- What is done after a failure comes to the same if each part does. -/
theorem Agree.tryCatch {first second : Exchange α} {next nextToo : Failure → Exchange α}
    (agree : Agree first second) (agreeToo : ∀ failure, Agree (next failure) (nextToo failure)) :
    Agree (tryCatch first next) (MonadExcept.tryCatch second nextToo) := by
  intro network wire other agrees
  obtain ⟨same, after⟩ := agree network wire other agrees
  rcases reached : first network wire with ⟨failure | value, middle⟩
  · rcases reachedToo : second network other with ⟨result, middleToo⟩
    rw [reached, reachedToo] at same after
    cases same
    rw [tryCatch_of_error reached, tryCatch_of_error reachedToo]
    exact agreeToo failure network middle middleToo after
  · rcases reachedToo : second network other with ⟨result, middleToo⟩
    rw [reached, reachedToo] at same after
    cases same
    rw [tryCatch_of_ok reached, tryCatch_of_ok reachedToo]
    exact ⟨rfl, after⟩

/-- The same line of the log is one. -/
theorem agree_note (level : LogLevel) (channel : LogChannel) (message : String) :
    Agree (note level channel message) (note level channel message) := by
  intro network wire other agrees
  exact ⟨rfl, agrees.events, congrArg (· ++ _) agrees.log, agrees.replies, agrees.connections,
    agrees.held⟩

/-- The connections that are acquired are the same. -/
theorem agree_acquire : Agree acquire acquire := by
  intro network wire other agrees
  unfold acquire
  rw [← agrees.held]
  split
  · exact ⟨rfl, agrees⟩
  · refine ⟨congrArg Except.ok agrees.connections, ?_, agrees.log, agrees.replies, ?_, ?_⟩
    · simp [agrees.events, agrees.connections]
    · simp [agrees.connections]
    · simp [agrees.connections]

/-- The connections that are let go are the same. -/
theorem agree_release : Agree release release := by
  intro network wire other agrees
  unfold release change
  dsimp only
  rw [← agrees.held]
  split
  · refine ⟨rfl, ?_, agrees.log, agrees.replies, agrees.connections, rfl⟩
    simp [agrees.events]
  · exact ⟨rfl, agrees⟩

/-- Requests that differ in the proof of who asks get the same reply. -/
theorem agree_transmit (connection : Nat) {request other : Request}
    (same : request.redact = other.redact) :
    Agree (transmit connection request) (transmit connection other) := by
  intro network wire wireToo agrees
  have events : (wire.events ++ [Event.sent connection request]).map Event.redact =
      (wireToo.events ++ [Event.sent connection other]).map Event.redact := by
    simp [agrees.events, Event.redact, same]
  unfold transmit
  rw [← agrees.replies]
  cases network wire.replies <;>
    exact ⟨rfl, events, agrees.log, rfl, agrees.connections, agrees.held⟩

end Exchange

open Exchange

/-- What requests lead to that differ in the proof of who asks: the same failure, or no request, or
two that differ in nothing else either. -/
theorem nextRequest?_cases {request other : Request} (same : request.redact = other.redact)
    (response : Response) :
    (∃ failure, nextRequest? request response = .error failure ∧
      nextRequest? other response = .error failure) ∨
    (nextRequest? request response = .ok none ∧ nextRequest? other response = .ok none) ∨
    ∃ next nextToo, nextRequest? request response = .ok (some next) ∧
      nextRequest? other response = .ok (some nextToo) ∧ next.redact = nextToo.redact := by
  have struck := (nextRequest?_redact request response).symm.trans
    ((congrArg (nextRequest? · response) same).trans (nextRequest?_redact other response))
  rcases here : nextRequest? request response with failure | _ | next
  · rcases there : nextRequest? other response with failureToo | _ | nextToo
    all_goals
      rw [here, there] at struck
      cases struck
    exact .inl ⟨failure, rfl, rfl⟩
  · rcases there : nextRequest? other response with failureToo | _ | nextToo
    all_goals
      rw [here, there] at struck
      cases struck
    exact .inr (.inl ⟨rfl, rfl⟩)
  · rcases there : nextRequest? other response with failureToo | _ | nextToo
    all_goals
      rw [here, there] at struck
    · cases struck
    · cases struck
    · exact .inr (.inr ⟨next, nextToo, rfl, rfl, Option.some.inj (Except.ok.inj struck)⟩)

/-- Requests that differ in the proof of who asks come to the same, redirects included. -/
theorem deliver_agree (connection left : Nat) {request other : Request}
    (same : request.redact = other.redact) :
    Agree (deliver connection left request) (deliver connection left other) := by
  -- Each redirect that is followed leaves one less, so the induction is on how many are left.
  induction left generalizing request other with
  | zero =>
      refine (agree_transmit connection same).bind fun response => ?_
      obtain ⟨failure, here, there⟩ | ⟨here, there⟩ | ⟨next, nextToo, here, there, -⟩ :=
        nextRequest?_cases same response
      all_goals rw [here, there]
      · exact agree_throw failure
      · exact agree_pure response
      · exact agree_throw tooManyRedirects
  | succ left inductionHypothesis =>
      refine (agree_transmit connection same).bind fun response => ?_
      obtain ⟨failure, here, there⟩ | ⟨here, there⟩ | ⟨next, nextToo, here, there, alsoSame⟩ :=
        nextRequest?_cases same response
      all_goals rw [here, there]
      · exact agree_throw failure
      · exact agree_pure response
      · exact inductionHypothesis alsoSame

/-! ### Clients that differ in the password -/

variable {client other : Client}

theorem agree_connect (client : Client) : Agree (connect client) (connect client) :=
  (agree_orThrow _).bind fun _ =>
    (agree_orThrow _).bind fun _ => agree_acquire.bind fun _ => agree_pure _

namespace Client.Alike

private theorem base_eq (alike : client.Alike other) : client.base = other.base := by
  unfold base
  rw [alike.baseUrl]

private theorem patience_eq (alike : client.Alike other) : client.patience = other.patience := by
  unfold patience
  rw [alike.timeout]

private theorem connect_eq (alike : client.Alike other) : connect client = connect other := by
  unfold connect
  rw [alike.patience_eq, alike.base_eq]

/-- Clients that differ in the password prove in the same header who asks, or none of them does. -/
theorem sign_eq (alike : client.Alike other) (address : Url.Address) (headers : List Header) :
    (client.sign address headers).map Header.redact =
      (other.sign address headers).map Header.redact := by
  have username := alike.username
  unfold sign effectiveCredentials
  rcases here : client.credentials with _ | credentials
  · rcases there : other.credentials with _ | credentialsToo
    · rfl
    · rw [here, there] at username
      cases username
  · rcases there : other.credentials with _ | credentialsToo
    · rw [here, there] at username
      cases username
    · exact Header.set_proof _ _ _ _ (by decide)

/-- Clients that differ in the password make the same request, but for the proof of who asks. -/
theorem request_eq (alike : client.Alike other) (base : Url.Address) (intent : Intent) :
    (client.request base intent).map Request.redact =
      (other.request base intent).map Request.redact := by
  unfold request
  rw [alike.buildPath_eq, alike.buildHeaders_eq, alike.patience_eq]
  refine Result.map_bind_congr fun writable => ?_
  rcases Url.Address.parse (other.buildPath intent.path) with fault | reference
  · dsimp only
    rw [Result.throw_bind, Result.throw_bind]
  · refine Result.map_bind_congr fun reference => ?_
    dsimp only
    rcases base.append reference with fault | appended
    · dsimp only
      rw [Result.throw_bind, Result.throw_bind]
    · refine Result.map_bind_congr fun appended => ?_
      refine Result.map_bind_congr fun headers => ?_
      refine Result.map_bind_congr fun parameters => ?_
      refine Result.map_bind_congr fun method => ?_
      refine Result.map_bind_congr fun address => ?_
      refine Result.map_bind_congr fun body => ?_
      refine Result.map_bind_congr fun named => ?_
      refine Result.map_bind_congr fun time => congrArg Except.ok ?_
      exact congrArg (Request.mk method address · _ time) (alike.sign_eq address _)

end Client.Alike

/-- Whatever is sent, clients that differ in the password come to the same. -/
theorem send_agree (alike : client.Alike other) (intent : Intent) :
    Agree (send client intent) (send other intent) := by
  have deliver (connection : Nat) {request requestToo : Request}
      (same : request.redact = requestToo.redact) : Agree
        (deliver connection redirectLimit request >>= fun response =>
          if response.isSuccess then Pure.pure response else throw response.failure)
        (deliver connection redirectLimit requestToo >>= fun response =>
          if response.isSuccess then Pure.pure response else throw response.failure) := by
    refine (deliver_agree connection redirectLimit same).bind fun response => ?_
    split
    · exact agree_pure response
    · exact agree_throw response.failure
  unfold send
  rw [alike.connect_eq, alike.buildPath_eq]
  refine (agree_connect other).bind fun reached => ?_
  refine (agree_orThrow _).bind fun line => ?_
  refine (agree_note _ _ _).bind fun _ => ?_
  have same := alike.request_eq reached.2 intent
  rcases here : client.request reached.2 intent with failure | request
  · rcases there : other.request reached.2 intent with failureToo | requestToo
    all_goals
      rw [here, there] at same
      cases same
    exact agree_throw failure
  · rcases there : other.request reached.2 intent with failureToo | requestToo
    all_goals rw [here, there] at same
    · cases same
    · exact deliver reached.1 (Except.ok.inj same)

/-- Whatever is done with clients that differ in the password comes to the same. -/
theorem Exchange.Uses.agree {α : Type} {computation : Client → Exchange α}
    (uses : Uses computation) (alike : client.Alike other) :
    Agree (computation client) (computation other) := by
  induction uses with
  | view blind =>
      dsimp only
      rw [blind client other alike]
      exact agree_pure _
  | throw failure => exact agree_throw failure
  | note level channel message => exact agree_note level channel message
  | release => exact agree_release
  | connect =>
      rw [alike.connect_eq]
      exact agree_connect other
  | send intent => exact send_agree alike intent
  | bind _ _ first next => exact first.bind next
  | tryCatch _ _ first next => exact first.tryCatch next

end Http

/-! ### Sessions -/

namespace ReviewClient

variable (arguments : Arguments) (settings : Settings)

/-- The user name that counts: the one that the caller says, or the one of the settings. -/
def effectiveUsername : Option String := arguments.username <|> settings.username

/-- The client for what a caller says and for settings, with a password that the caller gives and
one that is configured. -/
def withPasswords (given configured : Option String) : ReviewClient :=
  new { arguments with password := given } { settings with password := configured }

variable (given configured otherGiven otherConfigured : Option String)

/-- Whatever the passwords are, they are all that clients differ in. -/
theorem alike_withPasswords :
    (withPasswords arguments settings given configured).http.Alike
      (withPasswords arguments settings otherGiven otherConfigured).http where
  baseUrl := rfl
  timeout := rfl
  headers := rfl
  username := by
    change (((effectiveUsername arguments settings).filter _).map _).map _ =
      (((effectiveUsername arguments settings).filter _).map _).map _
    simp only [Option.map_map]
    rfl

/-- Without a user name, passwords make no difference at all. -/
theorem withPasswords_eq
    (nobody : effectiveUsername arguments settings = none ∨
      effectiveUsername arguments settings = some "") :
    withPasswords arguments settings given configured =
      withPasswords arguments settings otherGiven otherConfigured := by
  have none : (arguments.username <|> settings.username).filter (!·.isEmpty) = none := by
    change (effectiveUsername arguments settings).filter _ = none
    rcases nobody with absent | empty
    · rw [absent]
      rfl
    · rw [empty]
      rfl
  simp only [withPasswords, new, Http.Client.new, none, Option.map_none]
  rfl

end ReviewClient

/-- Sessions of clients that differ in the password alone, on the same network: every step comes to
the same, what is kept is the same, and so are the log, the connections and the requests, but for
the value of the header that proves who asks.  Without a user name nothing differs at all. -/
theorem Session.password_hidden (arguments : ReviewClient.Arguments) (settings : Settings)
    (given configured otherGiven otherConfigured : Option String) (network : Http.Network)
    (steps : List Session.Step) :
    let client := ReviewClient.withPasswords arguments settings given configured
    let other := ReviewClient.withPasswords arguments settings otherGiven otherConfigured
    let (result, wire) := run client [] steps network .fresh
    let (resultToo, wireToo) := run other [] steps network .fresh
    result = resultToo ∧
      wire.AgreesWith wireToo ∧
      wire.requests.map Http.Request.redact = wireToo.requests.map Http.Request.redact ∧
      (ReviewClient.effectiveUsername arguments settings = none ∨
          ReviewClient.effectiveUsername arguments settings = some "" →
        wire = wireToo) := by
  intro client other
  have alike : client.http.Alike other.http :=
    ReviewClient.alike_withPasswords arguments settings given configured otherGiven otherConfigured
  obtain ⟨sameResult, agrees⟩ :=
    (uses_run client.baseUrl [] steps).agree alike network .fresh .fresh ⟨rfl, rfl, rfl, rfl, rfl⟩
  refine ⟨sameResult, agrees, agrees.requests, fun nobody => ?_⟩
  have same : client = other :=
    ReviewClient.withPasswords_eq arguments settings given configured otherGiven otherConfigured
      nobody
  rw [same]

end ReviewGroups
