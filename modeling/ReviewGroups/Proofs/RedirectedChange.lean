/-
Module: ReviewGroups.Proofs.RedirectedChange
Purpose: What the server answered where a change returns: success to the request of the change, or a
  redirect that made a fetch of it, and success to that. The induction is on the history of the
  request (`Delivers`); once a request has become a fetch it stays one. Which redirects turn a
  change into a fetch is a matter of method and status.
Trusted boundary: none
Main exports: Operation.IsChange, Task.IsSentAs, Response.AsksToFetch, Task.Arrives,
  Task.arrives_of_delivers, Operation.change_arrives
-/
import ReviewGroups.Proofs.DeliveryRun
import ReviewGroups.Proofs.GroupOperation
import ReviewGroups.Proofs.TaskRun

namespace ReviewGroups

namespace Http

/-- The server answers a request with success. -/
def Reply.IsSuccess (reply : Reply) : Prop :=
  ∃ response, reply = .response response ∧ response.isSuccess = true

/-- A request fetches something: it brings no body. -/
def Request.IsFetch (request : Request) : Prop :=
  request.method = "GET" ∧ request.body = ""

/-- A response is a redirect that is followed with a fetch, whatever was asked for before. -/
def Response.AsksToFetch (response : Response) (method : Rest.Method) : Prop :=
  (response.header? "location").isSome = true ∧
    (response.status = 302 ∨ response.status = 303 ∨ response.status = 301 ∧ method = .post)

/-! ### Where a redirect leads -/

variable {network : Network} {left taken : Nat} {request next : Request} {response : Response}
  {hops : List (Request × Reply)} {outcome : Outcome}

/-- A redirect leads to the method that its status asks for, and the body goes where the method
changes. -/
theorem parts_of_nextRequest? (led : nextRequest? request response = .ok (some next)) :
    (response.header? "location").isSome = true ∧
      next.method = redirectMethod response.status request.method ∧
      next.body =
        if next.method ≠ request.method ∧ next.method = "GET" then "" else request.body := by
  unfold nextRequest? at led
  split at led
  next => cases led
  next =>
    split at led
    next => cases led
    next location redirects =>
      obtain ⟨other, redirected, same⟩ := Result.map_eq_ok_iff.1 led
      cases same
      have given : response.header? "location" = some location := by
        unfold Response.location? at redirects
        split at redirects
        next => exact redirects
        next => cases redirects
      refine ⟨by rw [given]; rfl, ?_⟩
      unfold Request.redirect at redirected
      obtain ⟨address, -, redirected⟩ := Result.bind_eq_ok_iff.1 redirected
      dsimp only at redirected
      split at redirected
      next =>
        cases redirected
        exact ⟨rfl, rfl⟩
      next => cases redirected

/-- A redirect keeps method and body, or it asks for a fetch. -/
theorem follows_of_nextRequest? {method : Rest.Method} (named : request.method = method.name)
    (led : nextRequest? request response = .ok (some next)) :
    (next.method = request.method ∧ next.body = request.body) ∨
      (response.AsksToFetch method ∧ next.IsFetch) := by
  obtain ⟨given, changed, body⟩ := parts_of_nextRequest? led
  by_cases same : next.method = request.method
  · rw [if_neg fun other => other.1 same] at body
    exact .inl ⟨same, body⟩
  · right
    have fetch (get : next.method = "GET") : next.IsFetch := by
      rw [if_pos ⟨same, get⟩] at body
      exact ⟨get, body⟩
    unfold redirectMethod at changed
    split at changed
    next asked =>
      refine ⟨⟨given, ?_⟩, fetch changed⟩
      rcases asked.1 with other | found
      · exact .inr (.inl other)
      · exact .inl found
    next =>
      split at changed
      next asked =>
        refine ⟨⟨given, .inr (.inr ⟨asked.1, ?_⟩)⟩, fetch changed⟩
        have posts : method.name = "POST" := named.symm.trans asked.2
        cases method with
        | post => rfl
        | get => exact absurd posts (by decide)
        | put => exact absurd posts (by decide)
        | delete => exact absurd posts (by decide)
      next => exact absurd changed same

/-- What follows a fetch are fetches. -/
theorem Delivers.fetches (delivers : Delivers network left taken request hops outcome)
    (fetch : request.IsFetch) : ∀ hop ∈ hops, hop.1.IsFetch := by
  induction delivers with
  | follow replied led _ inductionHypothesis =>
      rw [List.forall_mem_cons]
      refine ⟨fetch, inductionHypothesis ?_⟩
      have named : _ = Rest.Method.get.name := fetch.1
      rcases follows_of_nextRequest? named led with ⟨sameMethod, sameBody⟩ | ⟨-, fetchToo⟩
      · exact ⟨sameMethod.trans fetch.1, sameBody.trans fetch.2⟩
      · exact fetchToo
  | _ => simpa using fetch

/-- What a delivery ends with is the last reply. -/
theorem Delivers.getLast?_eq (delivers : Delivers network left taken request hops outcome)
    (answered : outcome = .answered response) :
    ∃ last, hops.getLast? = some (last, .response response) := by
  induction delivers with
  | final replied last =>
      cases answered
      exact ⟨_, rfl⟩
  | follow replied led _ inductionHypothesis =>
      obtain ⟨last, ends⟩ := inductionHypothesis answered
      exact ⟨last, by simp [List.getLast?_cons, ends]⟩
  | _ => cases answered

end Http

namespace Rest

open Http

/-- An operation changes something on the server. -/
def Operation.IsChange : Operation → Prop
  | .resolve _ => False
  | .create _ => True
  | .perform call => call.IsChange

namespace Task

variable {client : Client} {base : Url.Address} {task : Task} {network : Network}
  {left taken : Nat} {request next : Request} {response : Response} {hops : List (Request × Reply)}
  {outcome : Outcome}

/-- A request has the method of a task, and the JSON text of its body. -/
def IsSentAs (task : Task) (request : Request) : Prop :=
  request.method = task.method.name ∧
    ∃ body, task.body.requestBody = .ok body ∧
      request.body = (body.map (Json.render compact)).getD ""

/-- Of the requests that were sent for a task, one was sent as the task asks for, and the server
answered it with success; or it answered with a redirect that asks for a fetch, only fetches were
sent after that, and the last one was answered with success. -/
def Arrives (task : Task) (hops : List (Request × Reply)) : Prop :=
  ∃ before own response after,
    hops = before ++ (own, .response response) :: after ∧ task.IsSentAs own ∧
      (response.isSuccess = true ∨
        response.AsksToFetch task.method ∧ (∀ hop ∈ after, hop.1.IsFetch) ∧
          ∃ last, after.getLast? = some last ∧ last.2.IsSuccess)

private theorem isSentAs_of_request (made : client.request base task.intent = .ok request) :
    task.IsSentAs request := by
  have makes := Client.makes_of_request made
  exact ⟨Except.ok.inj (makes.method.symm.trans task.method.upperMethod_name), makes.body⟩

theorem Arrives.cons (arrives : task.Arrives hops) (hop : Request × Reply) :
    task.Arrives (hop :: hops) := by
  obtain ⟨before, own, response, after, rfl, rest⟩ := arrives
  exact ⟨hop :: before, own, response, after, rfl, rest⟩

/-- Where a task comes to a response with success, it arrives. -/
theorem arrives_of_delivers (delivers : Delivers network left taken request hops outcome)
    (sent : task.IsSentAs request) (answered : outcome = .answered response)
    (success : response.isSuccess = true) : task.Arrives hops := by
  induction delivers with
  | final replied last =>
      cases answered
      exact ⟨[], _, response, [], rfl, sent, .inl success⟩
  | @follow left taken request next reply hops outcome replied led delivers inductionHypothesis =>
      rcases follows_of_nextRequest? sent.1 led with ⟨sameMethod, sameBody⟩ | ⟨asks, fetch⟩
      -- The next request is as the task asks for too, so it is the one that may have arrived.
      · refine (inductionHypothesis ⟨?_, ?_⟩ answered).cons _
        · exact sameMethod.trans sent.1
        · rw [sameBody]
          exact sent.2
      -- From here on only fetches are sent, so no later request can be as the task asks for.
      · obtain ⟨last, ends⟩ := delivers.getLast?_eq answered
        refine ⟨[], request, reply, hops, rfl, sent, .inr ⟨asks, delivers.fetches fetch, ?_⟩⟩
        exact ⟨_, ends, response, rfl, success⟩
  | _ => cases answered

end Task

namespace Operation

variable {client : Client} {operation : Operation} {network : Network} {wire ended : Wire}

/-- Where an operation returns, something was fetched for its task, and nothing was exchanged after
that. -/
theorem exists_fetch_of_run_eq_ok
    (returned : operation.run client network wire = (.ok (), ended)) :
    ∃ task data middle, operation.task = .ok task ∧
      task.fetch client network wire = (.ok data, middle) ∧ middle.Exchanged network ended [] := by
  have still {α : Type} {result : Except Failure α} {value : α} {middle ended : Wire}
      (settled : (Failure.orThrow result : Exchange α) network middle = (.ok value, ended)) :
      middle.Exchanged network ended [] := by
    rw [Exchange.orThrow_eq] at settled
    cases congrArg Prod.snd settled
    exact .of_quiet rfl rfl
  cases operation with
  | resolve identifier =>
      obtain ⟨group, middle, resolved, finished⟩ := Exchange.exists_of_bind_eq_ok returned
      cases finished
      obtain ⟨task, data, middle, made, fetched, settled⟩ := Task.exists_fetch_of_eq_ok resolved
      exact ⟨task, data, middle, made, fetched, still settled⟩
  | create input =>
      obtain ⟨group, middle, created, finished⟩ := Exchange.exists_of_bind_eq_ok returned
      cases finished
      obtain ⟨task, data, middle, made, fetched, told⟩ := Task.exists_fetch_of_eq_ok created
      obtain ⟨_, ready, noted, settled⟩ := Exchange.exists_of_bind_eq_ok told
      have quiet : middle.Exchanged network ready [] := by
        cases congrArg Prod.snd noted
        exact .of_quiet rfl rfl
      exact ⟨task, data, middle, made, fetched, quiet.append (still settled)⟩
  | perform call =>
      obtain ⟨answer, middle, performed, finished⟩ := Exchange.exists_of_bind_eq_ok returned
      cases finished
      obtain ⟨task, data, middle, made, fetched, settled⟩ := Task.exists_fetch_of_eq_ok performed
      exact ⟨task, data, middle, made, fetched, still settled⟩

/-- The task of an operation that changes something is no fetch. -/
theorem method_ne_get {task : Task} (change : operation.IsChange)
    (made : operation.task = .ok task) : task.method ≠ .get := by
  cases operation with
  | resolve identifier => exact change.elim
  | create input =>
      obtain ⟨name, -, rfl⟩ := Task.exists_of_ofCreation made
      simp [Task.method]
  | perform call => exact (Task.isChange_iff_method_ne_get made).1 change

/-- Where an operation that changes something returns, its change arrived: of the requests that it
sent, one had the method and the body of its task and was answered with success, or was answered
with a redirect that asks for a fetch, and that fetch with success. -/
theorem change_arrives (client : Client) (operation : Operation) (change : operation.IsChange)
    (network : Network) (wire ended : Wire)
    (returned : operation.run client network wire = (.ok (), ended)) :
    ∃ task hops, operation.task = .ok task ∧ task.method ≠ .get ∧
      wire.Exchanged network ended hops ∧ task.Arrives hops := by
  obtain ⟨task, data, middle, made, fetched, quiet⟩ := exists_fetch_of_run_eq_ok returned
  obtain ⟨response, delivered⟩ := Task.exists_send_of_fetch_eq_ok fetched
  obtain ⟨base, request, hops, -, asked, delivers, success, exchanged⟩ :=
    exists_delivers_of_send_eq_ok delivered
  have arrives := Task.arrives_of_delivers delivers (Task.isSentAs_of_request asked) rfl success
  refine ⟨task, hops, made, method_ne_get change made, ?_, arrives⟩
  simpa using exchanged.append quiet

/-! ### Samples -/

open Client (anonymous)

/-- A redirect, and then an answer with success. -/
def redirecting (status : Int) (location : String) : Network := fun taken =>
  if taken = 0 then .response ⟨status, [("Location", location.toUTF8.toList)], []⟩
  else .response ⟨200, [], []⟩

/-- The indexing of a group. -/
def sampleIndexing : Operation := perform (.index (.text "x"))

/-- A redirect that keeps the method leads the indexing of a group to another path, where it is
answered with success. -/
theorem change_arrives_elsewhere :
    sampleIndexing.IsChange ∧
      ∃ ended,
        sampleIndexing.run anonymous (redirecting 307 "/r/groups/x/index") .fresh =
          (.ok (), ended) ∧
        ∃ task hops, sampleIndexing.task = .ok task ∧ task.method ≠ .get ∧
          Wire.fresh.Exchanged (redirecting 307 "/r/groups/x/index") ended hops ∧
          task.Arrives hops := by
  have answered :
      (sampleIndexing.run anonymous (redirecting 307 "/r/groups/x/index") .fresh).1.toOption =
        some () := by
    decide +kernel
  rcases returned : sampleIndexing.run anonymous (redirecting 307 "/r/groups/x/index") .fresh
    with ⟨outcome, ended⟩
  rw [returned] at answered
  cases Result.eq_ok_of_toOption answered
  exact ⟨trivial, ended, rfl,
    change_arrives anonymous sampleIndexing trivial _ _ _ returned⟩

/-- The deletion of a description. -/
def sampleDeletion : Operation := perform (.putDescription (.text "x") .null)

/-- A redirect to a page where people sign in makes a fetch of a deletion: it returns, though no
request that deletes anything was answered with success. -/
theorem deletion_without_success :
    sampleDeletion.IsChange ∧ sampleDeletion.task = .ok (.deleteDescription "x") ∧
      ∃ ended hops,
        sampleDeletion.run anonymous (redirecting 302 "/login") .fresh = (.ok (), ended) ∧
        Wire.fresh.Exchanged (redirecting 302 "/login") ended hops ∧
        ¬ ∃ hop ∈ hops, (Task.deleteDescription "x").IsSentAs hop.1 ∧ hop.2.IsSuccess := by
  refine ⟨trivial, rfl, ?_⟩
  have seen :
      ((sampleDeletion.run anonymous (redirecting 302 "/login") .fresh).1.toOption,
        (sampleDeletion.run anonymous (redirecting 302 "/login") .fresh).2.requests.map
          Request.method,
        (sampleDeletion.run anonymous (redirecting 302 "/login") .fresh).2.replies) =
        (some (), ["DELETE", "GET"], 2) := by
    decide +kernel
  generalize sampleDeletion.run anonymous (redirecting 302 "/login") .fresh = reached at seen ⊢
  obtain ⟨outcome, ended⟩ := reached
  simp only [Prod.mk.injEq] at seen
  obtain ⟨returned, methods, counted⟩ := seen
  obtain ⟨deletion, others, sent, deletes, methods⟩ := List.map_eq_cons_iff.1 methods
  obtain ⟨page, none, rfl, fetches, methods⟩ := List.map_eq_cons_iff.1 methods
  cases List.map_eq_nil_iff.1 methods
  cases Result.eq_ok_of_toOption returned
  refine ⟨ended, [(deletion, redirecting 302 "/login" 0), (page, redirecting 302 "/login" 1)], rfl,
    ⟨sent, rfl, counted⟩, ?_⟩
  rintro ⟨hop, present, sentAs, response, replied, success⟩
  rcases List.mem_cons.1 present with rfl | present
  · cases replied
    cases success
  · cases List.mem_singleton.1 present
    have deletesToo : page.method = "DELETE" := sentAs.1
    rw [fetches] at deletesToo
    exact absurd deletesToo (by decide)

end Operation

end Rest

end ReviewGroups
