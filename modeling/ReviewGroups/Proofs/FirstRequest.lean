/-
Module: ReviewGroups.Proofs.FirstRequest
Purpose: What is sent first, of all that a computation sends: requests that were sent stay, and a
  client begins with the request that it makes from what it is asked to send. Three properties are
  carried through computations: sending nothing (`IsQuiet`), taking back nothing (`Grows`), and
  beginning with a request of a given kind (`StartsWith`). Redirects come later than the first
  request and do not matter for any of them.
Trusted boundary: none
Main exports: Exchange.IsQuiet, Exchange.Grows, Exchange.StartsWith, deliver_startsWith,
  send_startsWith
-/
import ReviewGroups.Http.Delivery
import ReviewGroups.Proofs.ExchangeRun

namespace ReviewGroups.Http

namespace Exchange

variable {α β : Type} {start : Request → Prop}

/-- A computation sends no request. -/
def IsQuiet (computation : Exchange α) : Prop :=
  ∀ network wire, (computation network wire).2.requests = wire.requests

/-- A computation keeps the requests that were sent before, and adds its own after them. -/
def Grows (computation : Exchange α) : Prop :=
  ∀ network wire, ∃ more, (computation network wire).2.requests = wire.requests ++ more

/-- Whatever a computation sends, what it sends first is as described. -/
def StartsWith (computation : Exchange α) (start : Request → Prop) : Prop :=
  ∀ network wire first more,
    (computation network wire).2.requests = wire.requests ++ first :: more → start first

/-- A computation can answer with a value. -/
def Reaches (computation : Exchange α) (value : α) : Prop :=
  ∃ network wire middle, computation network wire = (.ok value, middle)

/-- A result that is reached is an answer. -/
theorem eq_ok_of_reaches_orThrow {result : Except Failure α} {value : α}
    (reaches : (Failure.orThrow result : Exchange α).Reaches value) : result = .ok value := by
  obtain ⟨network, wire, middle, reached⟩ := reaches
  rw [orThrow_eq] at reached
  exact congrArg Prod.fst reached

/-- An answer that is there is the only one that is reached. -/
theorem eq_of_reaches_pure {value other : α}
    (reaches : (Pure.pure value : Exchange α).Reaches other) : other = value := by
  obtain ⟨network, wire, middle, reached⟩ := reaches
  cases reached
  rfl

/-- What both parts reach one after the other, the second one reaches. -/
theorem Reaches.of_bind {first : Exchange α} {next : α → Exchange β} {value : β}
    (reaches : (first >>= next).Reaches value) :
    ∃ between, first.Reaches between ∧ (next between).Reaches value := by
  obtain ⟨network, wire, ended, reached⟩ := reaches
  obtain ⟨between, middle, here, there⟩ := exists_of_bind_eq_ok reached
  exact ⟨between, ⟨network, wire, middle, here⟩, ⟨network, middle, ended, there⟩⟩

/-! ### Nothing is sent -/

theorem isQuiet_orThrow (result : Except Failure α) :
    (Failure.orThrow result : Exchange α).IsQuiet := by
  intro network wire
  rw [orThrow_eq]

theorem isQuiet_pure (value : α) : (Pure.pure value : Exchange α).IsQuiet :=
  fun _ _ => rfl

theorem isQuiet_throw (failure : Failure) : (throw failure : Exchange α).IsQuiet :=
  fun _ _ => rfl

theorem isQuiet_note (level : LogLevel) (channel : LogChannel) (message : String) :
    (note level channel message).IsQuiet :=
  fun _ _ => rfl

/-- To open a connection is to send nothing. -/
theorem isQuiet_acquire : acquire.IsQuiet := by
  intro network wire
  unfold acquire
  split
  · rfl
  · simp [Wire.requests]

/-- One quiet computation after another is quiet. -/
theorem IsQuiet.bind {first : Exchange α} {next : α → Exchange β} (quiet : first.IsQuiet)
    (quietToo : ∀ value, (next value).IsQuiet) : (first >>= next).IsQuiet := by
  intro network wire
  have before := quiet network wire
  rcases reached : first network wire with ⟨failure | value, middle⟩
  · rw [bind_of_error reached]
    rwa [reached] at before
  · rw [bind_of_ok reached, quietToo value network middle]
    rwa [reached] at before

/-! ### Something may be sent -/

theorem IsQuiet.grows {computation : Exchange α} (quiet : computation.IsQuiet) :
    computation.Grows := by
  intro network wire
  exact ⟨[], by rw [quiet network wire, List.append_nil]⟩

theorem requests_transmit (connection : Nat) (request : Request) (network : Network) (wire : Wire) :
    (transmit connection request network wire).2.requests = wire.requests ++ [request] := by
  unfold transmit
  cases network wire.replies <;> simp [Wire.requests]

/-- One computation that keeps requests after another keeps them. -/
theorem Grows.bind {first : Exchange α} {next : α → Exchange β} (grows : first.Grows)
    (growsToo : ∀ value, (next value).Grows) : (first >>= next).Grows := by
  intro network wire
  obtain ⟨more, before⟩ := grows network wire
  rcases reached : first network wire with ⟨failure | value, middle⟩
  · rw [bind_of_error reached]
    rw [reached] at before
    exact ⟨more, before⟩
  · rw [bind_of_ok reached]
    rw [reached] at before
    obtain ⟨others, after⟩ := growsToo value network middle
    exact ⟨more ++ others, by rw [after, before, List.append_assoc]⟩

/-! ### What is sent first -/

theorem StartsWith.imp {computation : Exchange α} {weaker : Request → Prop}
    (starts : computation.StartsWith start) (implies : ∀ request, start request → weaker request) :
    computation.StartsWith weaker :=
  fun network wire first more sent => implies first (starts network wire first more sent)

/-- What is transmitted first is what was given, whatever follows. -/
theorem startsWith_transmit {connection : Nat} {request : Request} {next : Response → Exchange α}
    (grows : ∀ response, (next response).Grows) :
    (transmit connection request >>= next).StartsWith (· = request) := by
  intro network wire first more sent
  have transmitted := requests_transmit connection request network wire
  rcases reached : transmit connection request network wire with ⟨failure | response, middle⟩
  · rw [bind_of_error reached] at sent
    rw [reached] at transmitted
    rw [transmitted] at sent
    exact (List.cons.inj (List.append_cancel_left sent)).1.symm
  · rw [bind_of_ok reached] at sent
    rw [reached] at transmitted
    obtain ⟨others, after⟩ := grows response network middle
    rw [after, transmitted, List.append_assoc] at sent
    have same := List.append_cancel_left sent
    exact (List.cons.inj same).1.symm

/-- After a part that sends nothing, what follows is what starts. -/
theorem IsQuiet.bind_startsWith {first : Exchange α} {next : α → Exchange β}
    (quiet : first.IsQuiet)
    (starts : ∀ value, first.Reaches value → (next value).StartsWith start) :
    (first >>= next).StartsWith start := by
  intro network wire request more sent
  have before := quiet network wire
  rcases reached : first network wire with ⟨failure | value, middle⟩
  · rw [bind_of_error reached] at sent
    rw [reached] at before
    rw [before] at sent
    simp at sent
  · rw [bind_of_ok reached] at sent
    rw [reached] at before
    rw [← before] at sent
    exact starts value ⟨network, wire, middle, reached⟩ network middle request more sent

/-- What sends nothing afterwards does not change what is sent first. -/
theorem StartsWith.bind_isQuiet {first : Exchange α} {next : α → Exchange β}
    (starts : first.StartsWith start) (quiet : ∀ value, (next value).IsQuiet) :
    (first >>= next).StartsWith start := by
  intro network wire request more sent
  rcases reached : first network wire with ⟨failure | value, middle⟩
  · rw [bind_of_error reached] at sent
    exact starts network wire request more (by rw [reached]; exact sent)
  · rw [bind_of_ok reached, quiet value network middle] at sent
    exact starts network wire request more (by rw [reached]; exact sent)

/-- What sends nothing after a failure does not change what is sent first. -/
theorem StartsWith.tryCatch_isQuiet {first : Exchange α} {next : Failure → Exchange α}
    (starts : first.StartsWith start) (quiet : ∀ failure, (next failure).IsQuiet) :
    (tryCatch first next : Exchange α).StartsWith start := by
  intro network wire request more sent
  rcases reached : first network wire with ⟨failure | value, middle⟩
  · rw [tryCatch_of_error reached, quiet failure network middle] at sent
    exact starts network wire request more (by rw [reached]; exact sent)
  · rw [tryCatch_of_ok reached] at sent
    exact starts network wire request more (by rw [reached]; exact sent)

end Exchange

/-! ### Delivery -/

open Exchange

/-- What is done with the reply to a request. -/
def followUp (connection left : Nat) (request : Request) (response : Response) :
    Exchange Response := do
  match ← Failure.orThrow (nextRequest? request response) with
  | none => Pure.pure response
  | some next =>
      match left with
      | 0 => throw tooManyRedirects
      | left + 1 => deliver connection left next

theorem deliver_eq (connection left : Nat) (request : Request) :
    deliver connection left request =
      Exchange.transmit connection request >>= followUp connection left request := by
  cases left <;> rfl

/-- Requests that were sent stay, whatever is sent in the course of redirects. -/
theorem grows_followUp (connection left : Nat) (request : Request) (response : Response) :
    (followUp connection left request response).Grows := by
  induction left generalizing request response with
  | zero =>
      unfold followUp
      apply (isQuiet_orThrow _).grows.bind
      rintro (_ | next)
      · exact (isQuiet_pure _).grows
      · exact (isQuiet_throw _).grows
  | succ left inductionHypothesis =>
      unfold followUp
      apply (isQuiet_orThrow _).grows.bind
      rintro (_ | next)
      · exact (isQuiet_pure _).grows
      · change (deliver connection left next).Grows
        rw [deliver_eq]
        apply Grows.bind
        · intro network wire
          exact ⟨[next], requests_transmit connection next network wire⟩
        · exact inductionHypothesis next

/-- What is delivered is sent first, redirects come after it. -/
theorem deliver_startsWith (connection left : Nat) (request : Request) :
    (deliver connection left request).StartsWith (· = request) := by
  rw [deliver_eq]
  exact startsWith_transmit (grows_followUp connection left request)

/-! ### Clients -/

/-- A client that looks for a connection sends nothing. -/
theorem isQuiet_connect (client : Client) : (connect client).IsQuiet := by
  unfold connect
  apply (isQuiet_orThrow _).bind
  intro patience
  apply (isQuiet_orThrow _).bind
  intro base
  exact isQuiet_acquire.bind fun connection => isQuiet_pure _

/-- The base address that a client connects with is its own. -/
theorem base_of_reaches_connect {client : Client} {connection : Nat} {base : Url.Address}
    (reaches : (connect client).Reaches (connection, base)) : client.base = .ok base := by
  unfold connect at reaches
  obtain ⟨_, -, reaches⟩ := reaches.of_bind
  obtain ⟨other, isBase, reaches⟩ := reaches.of_bind
  obtain ⟨number, -, reaches⟩ := reaches.of_bind
  obtain ⟨network, wire, middle, reached⟩ := reaches
  rw [pure_eq] at reached
  cases reached
  exact eq_ok_of_reaches_orThrow isBase

/-- What a client sends first is the request that it makes from its base address and what it is to
send. -/
theorem send_startsWith (client : Client) (intent : Intent) :
    (send client intent).StartsWith fun request =>
      ∃ base, client.base = .ok base ∧ client.request base intent = .ok request := by
  unfold send
  refine (isQuiet_connect client).bind_startsWith ?_
  rintro ⟨connection, base⟩ reaches
  have isBase := base_of_reaches_connect reaches
  refine (isQuiet_orThrow _).bind_startsWith ?_
  intro line _
  refine (isQuiet_note _ _ _).bind_startsWith ?_
  intro _ _
  refine (isQuiet_orThrow _).bind_startsWith ?_
  intro request made
  apply StartsWith.bind_isQuiet
  · refine (deliver_startsWith connection redirectLimit request).imp ?_
    rintro _ rfl
    exact ⟨base, isBase, eq_ok_of_reaches_orThrow made⟩
  · intro response
    split
    · exact isQuiet_pure _
    · exact isQuiet_throw _

end ReviewGroups.Http
