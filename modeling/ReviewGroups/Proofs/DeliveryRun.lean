/-
Module: ReviewGroups.Proofs.DeliveryRun
Purpose: A request and the requests that redirects lead to, as a history of requests with the
  replies to them, and what it comes to in the end. `Delivers` is a relation with one constructor
  for each way in which a reply goes on or ends; there is a history for every network and every
  number of redirects left, and the client ends as the history does. Later modules argue about
  histories, by induction on this relation, and never about the loop that sends.
Trusted boundary: none
Main exports: Misuse.IsOfAddress, Outcome, Delivers, nextRequest?_error, exists_delivers,
  Wire.Exchanged, deliver_of_delivers, send_of_delivers, exists_delivers_of_send_eq_ok
-/
import ReviewGroups.Proofs.FirstRequest
import ReviewGroups.Proofs.RequestParts

namespace ReviewGroups

/-- A misuse is that of an address that cannot be worked with. -/
def Misuse.IsOfAddress : Misuse → Prop
  | .address _ | .hostName _ | .addressWithoutScheme _ => True
  | _ => False

namespace Http

/-- What a request comes to in the end, redirects included: a response that leads no further, a
fault of the network, or an address that cannot be worked with. -/
inductive Outcome where
  | answered (response : Response)
  | failed (fault : NetworkFault) (message : String)
  | refused (misuse : Misuse)

/-- The result of a delivery. -/
def Outcome.result : Outcome → Except Failure Response
  | .answered response => .ok response
  | .failed fault message => .error (fault.failure message)
  | .refused misuse => .error (.misuse misuse)

/-- What a client makes of the result of a delivery: a response without success is a failure. -/
def Outcome.report (outcome : Outcome) : Except Failure Response := do
  let response ← outcome.result
  if response.isSuccess then pure response else throw response.failure

/-- A client reports a response exactly if the delivery ends with it and it says success. -/
theorem Outcome.report_eq_ok_iff {outcome : Outcome} {response : Response} :
    outcome.report = .ok response ↔ outcome = .answered response ∧ response.isSuccess = true := by
  unfold report
  rw [Result.bind_eq_ok_iff]
  constructor
  · rintro ⟨other, reached, succeeded⟩
    split at succeeded
    next success =>
      cases succeeded
      cases outcome <;> cases reached
      exact ⟨rfl, success⟩
    next => cases succeeded
  · rintro ⟨rfl, success⟩
    exact ⟨response, rfl, by rw [if_pos success]; rfl⟩

/-- After `taken` replies a request is sent and at most `left` redirects are followed: the requests
that are sent, each with its reply, and what it comes to. -/
inductive Delivers (network : Network) :
    Nat → Nat → Request → List (Request × Reply) → Outcome → Prop where
  | failed {left taken : Nat} {request : Request} {fault : NetworkFault} {message : String}
      (replied : network taken = .fault fault message) :
      Delivers network left taken request [(request, .fault fault message)] (.failed fault message)
  | misdirected {left taken : Nat} {request : Request} {response : Response} {message : String}
      (replied : network taken = .response response)
      (refused : nextRequest? request response = .error (NetworkFault.other.failure message)) :
      Delivers network left taken request [(request, .response response)] (.failed .other message)
  | refused {left taken : Nat} {request : Request} {response : Response} {misuse : Misuse}
      (replied : network taken = .response response)
      (refused : nextRequest? request response = .error (.misuse misuse)) :
      Delivers network left taken request [(request, .response response)] (.refused misuse)
  | final {left taken : Nat} {request : Request} {response : Response}
      (replied : network taken = .response response)
      (last : nextRequest? request response = .ok none) :
      Delivers network left taken request [(request, .response response)] (.answered response)
  | exhausted {taken : Nat} {request next : Request} {response : Response}
      (replied : network taken = .response response)
      (led : nextRequest? request response = .ok (some next)) :
      Delivers network 0 taken request [(request, .response response)]
        (.failed .other "Exceeded maximum allowed redirects.")
  | follow {left taken : Nat} {request next : Request} {response : Response}
      {hops : List (Request × Reply)} {outcome : Outcome}
      (replied : network taken = .response response)
      (led : nextRequest? request response = .ok (some next))
      (delivers : Delivers network left (taken + 1) next hops outcome) :
      Delivers network (left + 1) taken request ((request, .response response) :: hops) outcome

variable {network : Network} {left taken : Nat} {request : Request} {response : Response}
  {hops : List (Request × Reply)} {outcome : Outcome}

theorem Delivers.exists_cons (delivers : Delivers network left taken request hops outcome) :
    ∃ reply more, hops = (request, reply) :: more := by
  cases delivers <;> exact ⟨_, _, rfl⟩

/-! ### Every request comes to something -/

/-- The address that a redirect leads to, with the fragment from before unless it brings one. -/
def carryFragment (current resolved : Url.Address) : Except Misuse Url.Address :=
  match current.fragment, resolved.fragment with
  | some fragment, kept =>
      if !fragment.isEmpty && (kept.getD "").isEmpty then
        orRefuse (resolved.withFragment (Url.Percent.decode fragment.toList))
      else pure resolved
  | none, _ => pure resolved

/-- The address that a reference with a host, or without a scheme, leads to. -/
def resolveHosted (current hosted : Url.Address) : Except Misuse Url.Address := do
  let resolved ← if hosted.isAbsolute then pure hosted else orRefuse (current.join hosted)
  carryFragment current resolved

private theorem errsOnly_orRefuse (result : Except AddressFault Url.Address) :
    Result.ErrsOnly Misuse.IsOfAddress (orRefuse result) := by
  cases result with
  | ok address => exact Result.errsOnly_ok _
  | error fault => exact Result.errsOnly_error trivial

private theorem errsOnly_readHost (address : Url.Address) :
    Result.ErrsOnly Misuse.IsOfAddress (readHost address) := by
  unfold readHost
  split
  · exact Result.errsOnly_ok _
  · exact Result.errsOnly_error trivial

/-- A reference with a host, or without a scheme, can only lead to an address that cannot be worked
with. -/
theorem errsOnly_resolveHosted (current hosted : Url.Address) :
    Result.ErrsOnly Misuse.IsOfAddress (resolveHosted current hosted) := by
  have carried (resolved : Url.Address) :
      Result.ErrsOnly Misuse.IsOfAddress (carryFragment current resolved) := by
    unfold carryFragment
    split
    · split
      · exact errsOnly_orRefuse _
      · exact Result.errsOnly_ok _
    · exact Result.errsOnly_ok _
  unfold resolveHosted
  split
  · exact (Result.errsOnly_ok _).bind carried
  · exact (errsOnly_orRefuse _).bind carried

private theorem errsOnly_resolveReference (current reference : Url.Address) :
    Result.ErrsOnly Misuse.IsOfAddress (resolveReference current reference) := by
  have resolves := errsOnly_resolveHosted current
  unfold resolveReference
  split
  · exact (Result.errsOnly_ok _).bind resolves
  · refine (errsOnly_readHost reference).bind fun name => ?_
    split
    · exact (errsOnly_readHost current).bind fun _ => (errsOnly_orRefuse _).bind resolves
    · exact (Result.errsOnly_ok _).bind resolves

/-- A redirect that cannot be followed is a fault of the network or an address that cannot be worked
with. -/
theorem nextRequest?_error {failure : Failure}
    (refused : nextRequest? request response = .error failure) :
    (∃ message, failure = NetworkFault.other.failure message) ∨
      ∃ misuse, failure = .misuse misuse ∧ misuse.IsOfAddress := by
  unfold nextRequest? at refused
  split at refused
  next =>
    cases refused
    exact .inr ⟨_, rfl, trivial⟩
  next =>
    split at refused
    next => cases refused
    next location _ =>
      have redirected := Result.map_eq_error_iff.1 refused
      unfold Request.redirect at redirected
      rcases Result.bind_eq_error_iff.1 redirected with lost | ⟨address, -, redirected⟩
      · unfold redirectAddress at lost
        split at lost
        next =>
          cases lost
          exact .inl ⟨_, rfl⟩
        next reference _ =>
          split at lost
          next => cases lost
          next misuse unresolved =>
            cases lost
            exact .inr ⟨misuse, rfl, errsOnly_resolveReference _ _ misuse unresolved⟩
      · dsimp only at redirected
        split at redirected
        next => cases redirected
        next =>
          cases redirected
          exact .inr ⟨_, rfl, trivial⟩

/-- A request comes to something where it does so after a redirect that leads to another one. -/
theorem exists_delivers_of_follow
    (follows : ∀ response next, network taken = .response response →
      nextRequest? request response = .ok (some next) →
        ∃ hops outcome, Delivers network left taken request hops outcome) :
    ∃ hops outcome, Delivers network left taken request hops outcome := by
  cases replied : network taken with
  | fault fault message => exact ⟨_, _, .failed replied⟩
  | response response =>
      cases led : nextRequest? request response with
      | error failure =>
          rcases nextRequest?_error led with ⟨message, rfl⟩ | ⟨misuse, rfl, -⟩
          · exact ⟨_, _, .misdirected replied led⟩
          · exact ⟨_, _, .refused replied led⟩
      | ok next? =>
          cases next? with
          | none => exact ⟨_, _, .final replied led⟩
          | some next => exact follows response next replied led

/-- Whatever the network replies, a request comes to something. -/
theorem exists_delivers (network : Network) (left taken : Nat) (request : Request) :
    ∃ hops outcome, Delivers network left taken request hops outcome := by
  induction left generalizing taken request with
  | zero =>
      apply exists_delivers_of_follow
      intro response next replied led
      exact ⟨_, _, .exhausted replied led⟩
  | succ left inductionHypothesis =>
      apply exists_delivers_of_follow
      intro response next replied led
      obtain ⟨hops, outcome, delivers⟩ := inductionHypothesis (taken + 1) next
      exact ⟨_, _, .follow replied led delivers⟩

/-! ### What the wire shows -/

/-- Between two states of the wire, these requests were sent and got these replies, one after the
other. -/
structure Wire.Exchanged (network : Network) (earlier later : Wire)
    (hops : List (Request × Reply)) : Prop where
  requests : later.requests = earlier.requests ++ hops.map Prod.fst
  replies : hops.map Prod.snd = (List.range' earlier.replies hops.length).map network
  counted : later.replies = earlier.replies + hops.length

namespace Wire

variable {earlier middle later : Wire}

theorem Exchanged.of_quiet (sameRequests : later.requests = earlier.requests)
    (sameReplies : later.replies = earlier.replies) : Exchanged network earlier later [] := by
  constructor <;> simp [sameRequests, sameReplies]

/-- One exchange after another. -/
theorem Exchanged.append {others : List (Request × Reply)}
    (before : Exchanged network earlier middle hops)
    (after : Exchanged network middle later others) :
    Exchanged network earlier later (hops ++ others) := by
  constructor
  case requests => simp [after.requests, before.requests]
  case replies =>
      rw [List.map_append, before.replies, after.replies, before.counted, List.length_append,
        ← List.map_append, List.range'_append_1]
  case counted =>
      rw [after.counted, before.counted, List.length_append, Nat.add_assoc]

/-- The state after a request was sent and its reply was taken. -/
def sent (connection : Nat) (request : Request) (wire : Wire) : Wire :=
  { wire with
    events := wire.events ++ [.sent connection request]
    replies := wire.replies + 1 }

private theorem exchanged_sent (connection : Nat) (request : Request) (wire : Wire) {reply : Reply}
    (replied : network wire.replies = reply) :
    Exchanged network wire (wire.sent connection request) [(request, reply)] := by
  constructor <;> simp [sent, requests, replied]

end Wire

variable {connection : Nat} {wire : Wire}

/-- After a fault of the network nothing else is done. -/
theorem deliver_of_fault {fault : NetworkFault} {message : String}
    (replied : network wire.replies = .fault fault message) :
    deliver connection left request network wire =
      (.error (fault.failure message), wire.sent connection request) := by
  rw [deliver_eq]
  apply Exchange.bind_of_error
  rw [Exchange.transmit, replied]
  rfl

/-- A response is followed up where its request was sent. -/
theorem deliver_of_response (replied : network wire.replies = .response response) :
    deliver connection left request network wire =
      followUp connection left request response network (wire.sent connection request) := by
  rw [deliver_eq]
  apply Exchange.bind_of_ok
  rw [Exchange.transmit, replied]
  rfl

private theorem followUp_of_error {failure : Failure}
    (refused : nextRequest? request response = .error failure) :
    followUp connection left request response network wire = (.error failure, wire) := by
  apply Exchange.bind_of_error
  rw [refused]
  exact Exchange.orThrow_eq _

private theorem followUp_of_none (last : nextRequest? request response = .ok none) :
    followUp connection left request response network wire = (.ok response, wire) := by
  unfold followUp
  rw [last]
  exact Exchange.bind_of_ok (Exchange.orThrow_eq _)

private theorem followUp_of_some {next : Request}
    (led : nextRequest? request response = .ok (some next)) :
    followUp connection left request response network wire =
      (match left with
        | 0 => throw tooManyRedirects
        | left + 1 => deliver connection left next : Exchange Response) network wire := by
  unfold followUp
  rw [led]
  exact Exchange.bind_of_ok (Exchange.orThrow_eq _)

/-- Where what follows a response sends nothing, a delivery is the exchange of one request. -/
theorem deliver_of_followUp {result : Except Failure Response}
    (replied : network wire.replies = .response response)
    (ends : followUp connection left request response network (wire.sent connection request) =
      (result, wire.sent connection request)) :
    ∃ ended, deliver connection left request network wire = (result, ended) ∧
      wire.Exchanged network ended [(request, .response response)] := by
  refine ⟨_, ?_, Wire.exchanged_sent connection request wire replied⟩
  rw [deliver_of_response replied, ends]

/-- A delivery has the result of what its request comes to, and the wire shows the history. -/
theorem deliver_of_delivers (connection : Nat)
    (delivers : Delivers network left taken request hops outcome) (counted : wire.replies = taken) :
    ∃ ended, deliver connection left request network wire = (outcome.result, ended) ∧
      wire.Exchanged network ended hops := by
  induction delivers generalizing wire with
  | failed replied =>
      subst counted
      exact ⟨_, deliver_of_fault replied, Wire.exchanged_sent connection _ wire replied⟩
  | misdirected replied refused =>
      subst counted
      exact deliver_of_followUp replied (followUp_of_error refused)
  | refused replied refused =>
      subst counted
      exact deliver_of_followUp replied (followUp_of_error refused)
  | final replied last =>
      subst counted
      exact deliver_of_followUp replied (followUp_of_none last)
  | exhausted replied led =>
      subst counted
      exact deliver_of_followUp replied (followUp_of_some led)
  -- Here alone the delivery goes on, from a state that has taken one reply more.
  | @follow left taken request next response hops outcome replied led _ inductionHypothesis =>
      subst counted
      have here := Wire.exchanged_sent connection request wire replied
      obtain ⟨ended, delivered, there⟩ := inductionHypothesis here.counted
      refine ⟨ended, ?_, here.append there⟩
      rw [deliver_of_response replied, followUp_of_some led]
      exact delivered

/-! ### Clients -/

variable {client : Client} {base : Url.Address} {intent : Intent}

/-- A client that can connect does so without sending anything. -/
theorem exchanged_connect {time : Value} (patient : client.patience = .ok time)
    (isBase : client.base = .ok base) (network : Network) (wire : Wire) :
    ∃ connection middle, connect client network wire = (.ok (connection, base), middle) ∧
      wire.Exchanged network middle [] := by
  have sameRequests := Exchange.isQuiet_acquire network wire
  unfold connect
  rw [patient, isBase]
  obtain ⟨connection, reached, sameReplies⟩ :
      ∃ connection, Exchange.acquire network wire =
        (.ok connection, (Exchange.acquire network wire).2) ∧
          (Exchange.acquire network wire).2.replies = wire.replies := by
    unfold Exchange.acquire
    split
    · exact ⟨_, rfl, rfl⟩
    · exact ⟨_, rfl, rfl⟩
  refine ⟨connection, _, ?_, Wire.Exchanged.of_quiet sameRequests sameReplies⟩
  rw [Exchange.bind_of_ok (Exchange.orThrow_eq _), Exchange.bind_of_ok (Exchange.orThrow_eq _),
    Exchange.bind_of_ok reached]
  rfl

/-- To note something exchanges nothing. -/
theorem exchanged_note (level : LogLevel) (channel : LogChannel) (message : String)
    (network : Network) (wire : Wire) :
    ∃ ready, Exchange.note level channel message network wire = (.ok (), ready) ∧
      wire.Exchanged network ready [] :=
  ⟨_, rfl, .of_quiet rfl rfl⟩

/-- What a client reports is what the request comes to that it makes, and the wire shows the
history. -/
theorem send_of_delivers (isBase : client.base = .ok base)
    (made : client.request base intent = .ok request)
    (delivers : Delivers network redirectLimit wire.replies request hops outcome) :
    ∃ ended, send client intent network wire = (outcome.report, ended) ∧
      wire.Exchanged network ended hops := by
  have makes := Client.makes_of_request made
  obtain ⟨line, logged⟩ :=
    Client.exists_logMessage makes.writable (client.buildPath intent.path)
  obtain ⟨connection, middle, connected, quiet⟩ :=
    exchanged_connect makes.patience isBase network wire
  obtain ⟨ready, noted, alsoQuiet⟩ := exchanged_note .debug .http line network middle
  have quiet := quiet.append alsoQuiet
  obtain ⟨ended, delivered, exchanged⟩ := deliver_of_delivers connection delivers quiet.counted
  refine ⟨ended, ?_, quiet.append exchanged⟩
  apply Eq.trans (Exchange.bind_of_ok connected)
  rw [logged]
  apply Eq.trans (Exchange.bind_of_ok (Exchange.orThrow_eq _))
  apply Eq.trans (Exchange.bind_of_ok noted)
  rw [made]
  apply Eq.trans (Exchange.bind_of_ok (Exchange.orThrow_eq _))
  unfold Outcome.report
  cases result : outcome.result with
  | error failure =>
      rw [result] at delivered
      exact Exchange.bind_of_error delivered
  | ok response =>
      rw [result] at delivered
      apply Eq.trans (Exchange.bind_of_ok delivered)
      change _ = (if response.isSuccess then Except.ok response else .error response.failure, ended)
      split
      · rfl
      · rfl

/-- A response with success that a client reports is what the request comes to that it makes. -/
theorem exists_delivers_of_send_eq_ok {ended : Wire}
    (answered : send client intent network wire = (.ok response, ended)) :
    ∃ base request hops, client.base = .ok base ∧ client.request base intent = .ok request ∧
      Delivers network redirectLimit wire.replies request hops (.answered response) ∧
      response.isSuccess = true ∧ wire.Exchanged network ended hops := by
  have whole := answered
  obtain ⟨⟨connection, base⟩, middle, connected, answered⟩ :=
    Exchange.exists_of_bind_eq_ok answered
  obtain ⟨line, noting, -, answered⟩ := Exchange.exists_of_bind_eq_ok answered
  obtain ⟨⟨⟩, ready, -, answered⟩ := Exchange.exists_of_bind_eq_ok answered
  obtain ⟨request, ready, made, -⟩ := Exchange.exists_of_bind_eq_ok answered
  have isBase := base_of_reaches_connect ⟨network, wire, middle, connected⟩
  rw [Exchange.orThrow_eq] at made
  have made := congrArg Prod.fst made
  obtain ⟨hops, outcome, delivers⟩ := exists_delivers network redirectLimit wire.replies request
  obtain ⟨other, reported, exchanged⟩ := send_of_delivers isBase made delivers
  rw [whole] at reported
  cases congrArg Prod.snd reported
  obtain ⟨rfl, success⟩ := Outcome.report_eq_ok_iff.1 (congrArg Prod.fst reported).symm
  exact ⟨base, request, hops, isBase, made, delivers, success, exchanged⟩

/-! ### Samples -/

/-- A client without credentials. -/
def Client.anonymous : Client := Client.new "http://gerrit.test" none none (.int 30) []

end Http

end ReviewGroups
