/-
Module: ReviewGroups.Proofs.FirstServer
Purpose: The server that a client turns to first: whatever is done with a client, it begins with a
  request that the client makes, so no path leads it away from the server in its address. Rests on
  `ClientUse` for all that can be done with a client and on `KeptServer` for a single request. Where
  redirects lead is up to the server and not said here.
Trusted boundary: none
Main exports: Wire.Begins, Exchange.Begins, Exchange.Uses.begins, Exchange.Asks,
  Client.Call.Sends, Client.first_request_keeps_server
-/
import ReviewGroups.Proofs.ClientUse
import ReviewGroups.Proofs.DeliveryRun
import ReviewGroups.Proofs.GroupAddressing
import ReviewGroups.Proofs.KeptServer

namespace ReviewGroups.Http

open Url

/-! ### What a computation begins with -/

/-- From one wire to a later one requests are only added, and the first of them is as described. -/
def Wire.Begins (start : Request → Prop) (earlier later : Wire) : Prop :=
  ∃ added, later.requests = earlier.requests ++ added ∧ ∀ first ∈ added.head?, start first

/-- What is added first in two parts is added first in one of them. -/
theorem Wire.Begins.trans {start : Request → Prop} {earlier middle later : Wire}
    (begins : earlier.Begins start middle) (beginsToo : middle.Begins start later) :
    earlier.Begins start later := by
  obtain ⟨added, before, described⟩ := begins
  obtain ⟨others, after, describedToo⟩ := beginsToo
  refine ⟨added ++ others, by rw [after, before, List.append_assoc], ?_⟩
  cases added with
  | nil => exact describedToo
  | cons first rest => exact described

namespace Exchange

variable {α β : Type} {start : Request → Prop}

/-- A computation only adds requests to those that were sent, and the first that it adds is as
described. -/
def Begins (computation : Exchange α) (start : Request → Prop) : Prop :=
  ∀ (network : Network) (wire : Wire), wire.Begins start (computation network wire).2

theorem IsQuiet.begins {computation : Exchange α} (quiet : computation.IsQuiet) :
    computation.Begins start := by
  intro network wire
  exact ⟨[], by rw [quiet network wire, List.append_nil], by simp⟩

/-- Where what was sent stays, and what is sent first is as described, that is what it begins
with. -/
theorem StartsWith.begins {computation : Exchange α} (starts : computation.StartsWith start)
    (grows : computation.Grows) : computation.Begins start := by
  intro network wire
  obtain ⟨added, sent⟩ := grows network wire
  refine ⟨added, sent, ?_⟩
  cases added with
  | nil => simp
  | cons first more =>
      rintro other ⟨⟩
      exact starts network wire first more sent

/-- One part after another begins with what the parts begin with. -/
theorem Begins.bind {first : Exchange α} {next : α → Exchange β} (begins : first.Begins start)
    (beginsToo : ∀ value, (next value).Begins start) : (first >>= next).Begins start := by
  intro network wire
  have before := begins network wire
  rcases reached : first network wire with ⟨failure | value, middle⟩
  · rw [bind_of_error reached]
    rwa [reached] at before
  · rw [bind_of_ok reached]
    rw [reached] at before
    exact before.trans (beginsToo value network middle)

/-- What is done after a failure begins with what the parts begin with. -/
theorem Begins.tryCatch {first : Exchange α} {next : Failure → Exchange α}
    (begins : first.Begins start) (beginsToo : ∀ failure, (next failure).Begins start) :
    (tryCatch first next : Exchange α).Begins start := by
  intro network wire
  have before := begins network wire
  rcases reached : first network wire with ⟨failure | value, middle⟩
  · rw [tryCatch_of_error reached]
    rw [reached] at before
    exact before.trans (beginsToo failure network middle)
  · rw [tryCatch_of_ok reached]
    rwa [reached] at before

/-- To let a connection go is to send nothing. -/
theorem isQuiet_release : release.IsQuiet := by
  intro network wire
  unfold release change
  dsimp only
  split <;> simp [Wire.requests]

end Exchange

open Exchange

/-! ### What is done with a client -/

/-- What a client has sent stays, whatever it sends. -/
theorem grows_send (client : Client) (intent : Intent) : (send client intent).Grows := by
  unfold send
  refine (isQuiet_connect client).grows.bind ?_
  rintro ⟨connection, base⟩
  refine (isQuiet_orThrow _).grows.bind fun line => ?_
  refine (isQuiet_note _ _ _).grows.bind fun _ => ?_
  refine (isQuiet_orThrow _).grows.bind fun request => ?_
  refine Grows.bind ?_ fun response => ?_
  · rw [deliver_eq]
    refine Grows.bind ?_ (grows_followUp _ _ _)
    intro network wire
    exact ⟨[request], requests_transmit connection request network wire⟩
  · split
    · exact (isQuiet_pure _).grows
    · exact (isQuiet_throw _).grows

/-- A client makes a request: from its base address and something that it is to send. -/
def Client.Issues (client : Client) (request : Request) : Prop :=
  ∃ base intent, client.base = .ok base ∧ client.request base intent = .ok request

/-- Whatever is done with a client, it begins with a request that the client makes. -/
theorem Exchange.Uses.begins {α : Type} {computation : Client → Exchange α}
    (uses : Uses computation) (client : Client) : (computation client).Begins client.Issues := by
  induction uses with
  | view => exact (isQuiet_pure _).begins
  | throw => exact (isQuiet_throw _).begins
  | note => exact (isQuiet_note _ _ _).begins
  | release => exact isQuiet_release.begins
  | connect => exact (isQuiet_connect client).begins
  | send intent =>
      refine StartsWith.begins ?_ (grows_send client intent)
      refine (send_startsWith client intent).imp ?_
      rintro request ⟨base, made⟩
      exact ⟨base, intent, made⟩
  | bind _ _ inductionHypothesis inductionHypothesisToo =>
      exact inductionHypothesis.bind inductionHypothesisToo
  | tryCatch _ _ inductionHypothesis inductionHypothesisToo =>
      exact inductionHypothesis.tryCatch inductionHypothesisToo

/-! ### Calls that send -/

/-- A computation does not answer before it has sent something. -/
def Exchange.Asks {α : Type} (computation : Exchange α) : Prop :=
  ∀ network wire value ended, computation network wire = (.ok value, ended) →
    ∃ first more, ended.requests = wire.requests ++ first :: more

namespace Exchange

variable {α β : Type}

/-- After a part that asks, the whole has asked. -/
theorem Asks.bind {first : Exchange α} {next : α → Exchange β} (asks : first.Asks)
    (grows : ∀ value, (next value).Grows) : (first >>= next).Asks := by
  intro network wire value ended answered
  obtain ⟨between, middle, here, there⟩ := exists_of_bind_eq_ok answered
  obtain ⟨request, more, sent⟩ := asks network wire between middle here
  obtain ⟨others, grown⟩ := grows between network middle
  rw [there] at grown
  exact ⟨request, more ++ others, by rw [grown, sent]; simp⟩

/-- Before a part that asks, there may be one that does not. -/
theorem IsQuiet.bind_asks {first : Exchange α} {next : α → Exchange β} (quiet : first.IsQuiet)
    (asks : ∀ value, (next value).Asks) : (first >>= next).Asks := by
  intro network wire value ended answered
  obtain ⟨between, middle, here, there⟩ := exists_of_bind_eq_ok answered
  obtain ⟨request, more, sent⟩ := asks between network middle value ended there
  have before := quiet network wire
  rw [here] at before
  exact ⟨request, more, by rw [sent, before]⟩

end Exchange

/-- A client does not answer before it has sent a request. -/
theorem asks_send (client : Client) (intent : Intent) : (send client intent).Asks := by
  intro network wire response ended answered
  obtain ⟨base, request, hops, -, -, delivers, -, exchanged⟩ :=
    exists_delivers_of_send_eq_ok answered
  have some : hops ≠ [] := by
    cases delivers <;> exact List.cons_ne_nil _ _
  obtain ⟨hop, others, rfl⟩ := List.exists_cons_of_ne_nil some
  exact ⟨hop.1, others.map Prod.fst, exchanged.requests⟩

/-- To read a part of a call as text is to send nothing. -/
theorem isQuiet_readText (client : Client) (operation : String) (value : Value) :
    (readText client operation value).IsQuiet := by
  unfold readText
  split
  · exact isQuiet_pure _
  · exact isQuiet_pure _
  · exact (isQuiet_connect client).bind fun _ => isQuiet_throw _

/-- A call is one of those that send a request. -/
def Client.Call.Sends : Client.Call → Prop
  | .request .. | .getJson .. | .putJson .. | .postJson .. | .delete .. => True
  | .path .. | .headers .. | .enter | .leave .. | .close => False

/-- A call that sends a request is not answered before that is sent. -/
theorem Client.asks_perform (client : Client) {call : Client.Call} (sends : call.Sends) :
    (client.perform call).Asks := by
  cases call with
  | request method path parameters body headers =>
      refine (isQuiet_readText _ _ _).bind_asks fun path => ?_
      exact (asks_send _ _).bind fun _ => (isQuiet_pure _).grows
  | getJson path _ | putJson path _ | postJson path _ =>
      refine (isQuiet_readText _ _ _).bind_asks fun path => ?_
      refine Asks.bind ?_ fun _ => (isQuiet_pure _).grows
      exact (asks_send _ _).bind fun response => (Rest.isQuiet_readBody _ _).grows
  | delete path =>
      refine (isQuiet_readText _ _ _).bind_asks fun path => ?_
      refine Asks.bind ?_ fun _ => (isQuiet_pure _).grows
      exact (asks_send _ _).bind fun _ => (isQuiet_pure _).grows
  | path | headers | enter | leave | close => exact absurd sends id

/-- Whatever path a client is asked for, it fails without sending anything, or what it sends first
goes to the server in its address. -/
theorem Client.first_request_keeps_server {client : Client} {address : Address}
    (read : Address.parse client.baseUrl = .ok address)
    (web : address.scheme = "http" ∨ address.scheme = "https") {call : Client.Call}
    (sends : call.Sends) (network : Network) (wire : Wire) :
    ((∃ failure, (client.perform call network wire).1 = .error failure) ∧
        (client.perform call network wire).2.requests = wire.requests) ∨
      ∃ first more,
        (client.perform call network wire).2.requests = wire.requests ++ first :: more ∧
          address.SameServer first.address := by
  obtain ⟨added, sent, described⟩ := (uses_perform call).begins client network wire
  cases added with
  | nil =>
      refine .inl ⟨?_, by simpa using sent⟩
      rcases reached : client.perform call network wire with ⟨failure | answer, ended⟩
      · exact ⟨failure, rfl⟩
      · obtain ⟨first, more, some⟩ := asks_perform client sends network wire answer ended reached
        rw [reached] at sent
        simp [some] at sent
  | cons first more =>
      obtain ⟨base, intent, isBase, made⟩ := described first rfl
      exact .inr ⟨first, more, sent, sameServer_of_request read web isBase made⟩

/-! ### Samples -/

open Rest.Operation (anonymousClient anonymousBase isPlainBase_anonymous silence)

/-- A path that looks like the address of another server. -/
def Client.straySample : Client.Call := .getJson (.text "//other.test/groups/") .null

/-- A path that looks like the address of another server is asked for at the server of the
client. -/
theorem Client.first_request_keeps_server_stray :
    Address.parse anonymousClient.baseUrl = .ok anonymousBase ∧ anonymousBase.scheme = "http" ∧
      straySample.Sends ∧
        ∃ first, (anonymousClient.perform straySample silence .fresh).2.requests = [first] ∧
          anonymousBase.SameServer first.address := by
  have sentOne : (anonymousClient.perform straySample silence .fresh).2.requests.length = 1 := by
    decide +kernel
  refine ⟨isPlainBase_anonymous.read, rfl, trivial, ?_⟩
  have kept := first_request_keeps_server isPlainBase_anonymous.read (.inl rfl)
    (show straySample.Sends from trivial) silence .fresh
  rcases kept with ⟨-, none⟩ | ⟨first, more, sent, same⟩
  · rw [none] at sentOne
    cases sentOne
  · refine ⟨first, ?_, same⟩
    rw [sent] at sentOne ⊢
    obtain rfl : more = [] := by simpa [Wire.requests, Wire.fresh] using sentOne
    rfl

end ReviewGroups.Http
