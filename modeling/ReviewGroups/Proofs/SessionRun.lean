/-
Module: ReviewGroups.Proofs.SessionRun
Purpose: What a single step of a session does to what is kept.  Every step answers, whatever the
  network does: a failure is what it comes to, not an end of the session.  What is kept after a step
  follows on what was kept before; after a failure it is the same.  The relation `Follows` says this
  once, for requests that are being built, for handles and for copies alike, so that facts about
  whole sessions need no look at the single steps.  What the server is sent is not said here.
Trusted boundary: none
Main exports: Holding.Follows, Holding.Follows.keeps, Holding.Leaves, Holding.leaves_perform,
  Session.isTotal_perform, Session.leaves_perform, Session.exists_run_of_keeps
-/
import ReviewGroups.Proofs.FirstRequest
import ReviewGroups.Proofs.ListBuilding
import ReviewGroups.Proofs.QueryBuilding
import ReviewGroups.Session

namespace ReviewGroups

open Http (Exchange Network Wire)
open Http.Exchange (Reaches eq_of_reaches_pure isTotal_pure isTotal_observing)

/-! ### Calls on what is being built -/

namespace Building

variable {σ α β : Type} {state next : σ} {outcome : Except Failure α}

private theorem eq_of_reaches_ask {answer : β → α} {question : Exchange β}
    (reaches : (ask state answer question).Reaches (outcome, next)) : next = state := by
  obtain ⟨network, wire, ended, asked⟩ := reaches
  rw [ask_eq rfl] at asked
  cases asked
  rfl

/-- A change that leaves the state alone when it fails leaves it alone as a call too. -/
private theorem eq_of_changed_error {answer : α} {result : EStateM.Result Misuse σ Unit}
    {failure : Failure} (changed : (.error failure, next) = Building.changed answer result)
    (still : ∀ misuse, result = .error misuse next → next = state) : next = state := by
  cases result with
  | ok value after => cases changed
  | error misuse after =>
      cases changed
      exact still misuse rfl

end Building

namespace ListRequest

variable {source : ListSource Exchange} {request next : ListRequest} {call : Call}

theorem isTotal_perform (source : ListSource Exchange) (request : ListRequest) (call : Call) :
    (perform source request call).IsTotal := by
  cases call with
  | change step | state => exact isTotal_pure _
  | getAsMap | get => exact Building.isTotal_ask request _ _

/-- A call that fails leaves the listing as it is. -/
theorem eq_of_perform_error {failure : Failure}
    (failed : (perform source request call).Reaches (.error failure, next)) : next = request := by
  cases call with
  | change step =>
      exact Building.eq_of_changed_error (eq_of_reaches_pure failed) fun _ => eq_of_apply_error
  | state => exact congrArg Prod.snd (eq_of_reaches_pure failed)
  | getAsMap | get => exact Building.eq_of_reaches_ask failed

end ListRequest

namespace QueryRequest

variable {fetch : QueryFilter → Exchange (List Group)} {request next : QueryRequest} {call : Call}

theorem isTotal_perform (fetch : QueryFilter → Exchange (List Group)) (request : QueryRequest)
    (call : Call) : (perform fetch request call).IsTotal := by
  cases call with
  | change step | state => exact isTotal_pure _
  | get => exact Building.isTotal_ask request _ _

/-- A call that fails leaves the query as it is, also one that was to replace options. -/
theorem eq_of_perform_error {failure : Failure}
    (failed : (perform fetch request call).Reaches (.error failure, next)) : next = request := by
  cases call with
  | change step =>
      exact Building.eq_of_changed_error (eq_of_reaches_pure failed) fun _ => eq_of_apply_error
  | state => exact congrArg Prod.snd (eq_of_reaches_pure failed)
  | get => exact Building.eq_of_reaches_ask failed

end QueryRequest

/-! ### What is kept -/

namespace Holding

variable {holdings next : List Holding} {place : Nat} {handle : Handle} {α β : Type}

/-- What is kept after a step that came to some outcome: the same as before; one thing more, after
all others; or the same but for one place, where there was something other than a handle.  After a
failure it is the same. -/
inductive Follows (holdings : List Holding) : Except Failure α → List Holding → Prop where
  | same (outcome : Except Failure α) : Follows holdings outcome holdings
  | kept (answer : α) (holding : Holding) : Follows holdings (.ok answer) (holdings ++ [holding])
  | changed {place : Nat} {before : Holding} (answer : α) (after : Holding)
      (there : holdings[place]? = some before) (loose : ∀ handle, before ≠ .handle handle) :
      Follows holdings (.ok answer) (holdings.set place after)

/-- A handle stays where it is kept. -/
theorem Follows.keeps {outcome : Except Failure α} (follows : Follows holdings outcome next)
    (kept : holdings[place]? = some (.handle handle)) : next[place]? = some (.handle handle) := by
  cases follows with
  | same => exact kept
  | kept answer holding =>
      have below : place < holdings.length := (List.getElem?_eq_some_iff.1 kept).1
      rw [List.getElem?_append_left below]
      exact kept
  | @changed other before answer after there loose =>
      have elsewhere : other ≠ place := by
        rintro rfl
        exact loose handle (Option.some.inj (there.symm.trans kept))
      rw [List.getElem?_set_ne elsewhere]
      exact kept

/-- What follows does so in whatever words the answer is given. -/
theorem Follows.map {outcome : Except Failure α} (follows : Follows holdings outcome next)
    (answer : α → β) : Follows holdings (outcome.map answer) next := by
  cases follows with
  | same => exact .same _
  | kept value holding => exact .kept (answer value) holding
  | changed value after there loose => exact .changed (answer value) after there loose

theorem follows_keep (holdings : List Holding) (given : Except Failure Holding) :
    Follows holdings (keep holdings given).1 (keep holdings given).2 := by
  cases given with
  | error failure => exact .same _
  | ok holding => exact .kept _ holding

/-- A call on a request that is kept, and that the request is left alone by if it fails, changes at
most the place of the request. -/
private theorem follows_set {before : Holding} {outcome : Except Failure α} (answer : α → β)
    (there : holdings[place]? = some before) (loose : ∀ handle, before ≠ .handle handle)
    (after : Holding) (still : ∀ failure, outcome = .error failure → after = before) :
    Follows holdings (outcome.map answer) (holdings.set place after) := by
  cases outcome with
  | error failure =>
      obtain ⟨below, rfl⟩ := List.getElem?_eq_some_iff.1 there
      rw [still failure rfl, List.set_getElem_self]
      exact .same _
  | ok value => exact .changed (answer value) after there loose

/-- Whatever a computation comes to, what is kept afterwards follows on what was kept before. -/
def Leaves (holdings : List Holding)
    (computation : Exchange (Except Failure α × List Holding)) : Prop :=
  ∀ outcome next, computation.Reaches (outcome, next) → Follows holdings outcome next

theorem Leaves.pure {reached : Except Failure α × List Holding}
    (follows : Follows holdings reached.1 reached.2) : Leaves holdings (Pure.pure reached) := by
  intro outcome last reaches
  cases eq_of_reaches_pure reaches
  exact follows

/-- What comes first does not matter: what is kept is said at the end. -/
theorem Leaves.bind {first : Exchange β}
    {rest : β → Exchange (Except Failure α × List Holding)}
    (leaves : ∀ value, first.Reaches value → Leaves holdings (rest value)) :
    Leaves holdings (first >>= rest) := by
  intro outcome last reaches
  obtain ⟨value, reached, reaches⟩ := reaches.of_bind
  exact leaves value reached outcome last reaches

theorem leaves_ask (holdings : List Holding) (answer : β → α) (question : Exchange β) :
    Leaves holdings (Building.ask holdings answer question) := by
  intro outcome next reaches
  obtain rfl := Building.eq_of_reaches_ask reaches
  exact .same outcome

/-- Every step leaves what was kept, but for what is being built and for copies. -/
theorem leaves_perform (facade : Facade Exchange) (holdings : List Holding) (step : Step) :
    Leaves holdings (perform facade holdings step) := by
  cases step with
  | find identifier | create group | list | query text =>
      exact .bind fun _ _ => .pure (follows_keep holdings _)
  | supports operation => exact .pure (.same _)
  | adopt fields => exact .pure (follows_keep holdings _)
  | build place call =>
      simp only [perform]
      split
      next there =>
        refine .bind fun (outcome, next) reached => .pure ?_
        apply follows_set Answer.listing there nofun
        rintro failure rfl
        rw [ListRequest.eq_of_perform_error reached]
      next => exact .pure (.same _)
  | inquire place call =>
      simp only [perform]
      split
      next there =>
        refine .bind fun (outcome, next) reached => .pure ?_
        apply follows_set Answer.query there nofun
        rintro failure rfl
        rw [QueryRequest.eq_of_perform_error reached]
      next => exact .pure (.same _)
  | look place look =>
      simp only [perform]
      split <;> exact .pure (.same _)
  | take place =>
      simp only [perform]
      split
      · exact .pure (follows_keep holdings _)
      · exact .pure (.same _)
  | alter place group =>
      simp only [perform]
      split
      next there => exact .pure (.changed _ _ there nofun)
      next => exact .pure (.same _)
  | operate place operation =>
      simp only [perform]
      split
      · exact leaves_ask holdings _ _
      · exact .pure (.same _)

/-- Every step answers. -/
theorem isTotal_perform (facade : Facade Exchange) (holdings : List Holding) (step : Step) :
    (perform facade holdings step).IsTotal := by
  cases step with
  | find identifier | create group | list | query text =>
      exact (isTotal_observing _).bind fun _ => isTotal_pure _
  | supports operation | adopt fields => exact isTotal_pure _
  | build place call =>
      simp only [perform]
      split
      · exact (ListRequest.isTotal_perform _ _ call).bind fun _ => isTotal_pure _
      · exact isTotal_pure _
  | inquire place call =>
      simp only [perform]
      split
      · exact (QueryRequest.isTotal_perform _ _ call).bind fun _ => isTotal_pure _
      · exact isTotal_pure _
  | look place look | take place | alter place group =>
      simp only [perform]
      split <;> exact isTotal_pure _
  | operate place operation =>
      simp only [perform]
      split
      · exact Building.isTotal_ask holdings _ _
      · exact isTotal_pure _

end Holding

/-! ### Sessions -/

namespace Session

open Holding (Leaves)

/-- No step of a session touches a handle that is kept, and one that fails touches nothing. -/
theorem leaves_perform (client : ReviewClient) (holdings : List Holding) (step : Step) :
    Leaves holdings (perform client holdings step) := by
  cases step with
  | hold step =>
      refine .bind fun (outcome, next) reached => .pure ?_
      exact (Holding.leaves_perform client.facade holdings step outcome next reached).map
        Answer.held
  | enter | describe => exact .pure (.same _)
  | _ => exact Holding.leaves_ask holdings _ _

/-- Every step of a session answers. -/
theorem isTotal_perform (client : ReviewClient) (holdings : List Holding) (step : Step) :
    (perform client holdings step).IsTotal := by
  cases step with
  | hold step =>
      exact (Holding.isTotal_perform client.facade holdings step).bind fun _ => isTotal_pure _
  | enter | describe => exact isTotal_pure _
  | _ => exact Building.isTotal_ask holdings _ _

/-- What every step leaves to hold of what is kept holds after a whole run, and the run has as many
outcomes as steps. -/
theorem exists_run_of_keeps (holds : List Holding → Prop) {client : ReviewClient}
    {holdings : List Holding} (before : holds holdings)
    (keeps : ∀ {α : Type} {holdings next : List Holding} {outcome : Except Failure α},
      Holding.Follows holdings outcome next → holds holdings → holds next)
    (steps : List Step) (network : Network) (wire : Wire) :
    ∃ outcomes last ended, run client holdings steps network wire = (.ok (outcomes, last), ended) ∧
      outcomes.length = steps.length ∧ holds last := by
  refine Building.exists_run_of_keeps (isTotal_perform client) ?_ before steps network wire
  intro holdings step network wire outcome next middle held reached
  exact keeps (leaves_perform client holdings step outcome next ⟨network, wire, middle, reached⟩)
    held

end Session

end ReviewGroups
