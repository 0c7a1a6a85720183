/-
Module: ReviewGroups.Proofs.ExchangeRun
Purpose: What a computation that talks to the network comes to, part by part. An exchange is a
  function of the network and the wire; these lemmas let a computation be followed one part after
  the other, without opening what it is made of. `IsTotal` singles out computations that answer on
  every network: where a step says what it comes to, failures included, the step itself does not
  fail, and a run of such steps has an outcome for each of them.
Trusted boundary: none
Main exports: Exchange.bind_of_ok, Exchange.bind_of_error, Exchange.bind_orThrow,
  Exchange.tryCatch_of_ok, Exchange.observing_eq, Exchange.IsTotal, Building.ask_eq,
  Building.exists_run_of_keeps
-/
import ReviewGroups.Filter.Building
import ReviewGroups.Http.Exchange

namespace ReviewGroups

namespace Http.Exchange

variable {α β : Type} {network : Network} {wire middle : Wire}

@[simp] theorem pure_eq (value : α) :
    (Pure.pure value : Exchange α) network wire = (.ok value, wire) :=
  rfl

@[simp] theorem orThrow_eq (result : Except Failure α) :
    (Failure.orThrow result : Exchange α) network wire = (result, wire) := by
  cases result <;> rfl

/-- After an answer the computation goes on where the first part left the wire. -/
theorem bind_of_ok {first : Exchange α} {next : α → Exchange β} {value : α}
    (answered : first network wire = (.ok value, middle)) :
    (first >>= next) network wire = next value network middle := by
  change Exchange.bind first next network wire = _
  rw [Exchange.bind, answered]

/-- After a failure nothing else is done. -/
theorem bind_of_error {first : Exchange α} {next : α → Exchange β} {failure : Failure}
    (failed : first network wire = (.error failure, middle)) :
    (first >>= next) network wire = (.error failure, middle) := by
  change Exchange.bind first next network wire = _
  rw [Exchange.bind, failed]

/-- It does not matter how three parts are put together. -/
theorem bind_assoc {γ : Type} (first : Exchange α) (next : α → Exchange β) (last : β → Exchange γ) :
    (first >>= next) >>= last = first >>= fun value => next value >>= last := by
  funext network wire
  rcases reached : first network wire with ⟨failure | value, middle⟩
  · rw [bind_of_error reached, bind_of_error (bind_of_error reached)]
  · rw [bind_of_ok reached]
    change Exchange.bind (Exchange.bind first next) last network wire =
      Exchange.bind (next value) last network middle
    simp only [Exchange.bind, reached]

/-- An answer of two parts comes from answers of both. -/
theorem exists_of_bind_eq_ok {first : Exchange α} {next : α → Exchange β} {value : β} {ended : Wire}
    (answered : (first >>= next) network wire = (.ok value, ended)) :
    ∃ between middle,
      first network wire = (.ok between, middle) ∧
        next between network middle = (.ok value, ended) := by
  rcases reached : first network wire with ⟨failure | between, middle⟩
  · rw [bind_of_error reached] at answered
    cases answered
  · rw [bind_of_ok reached] at answered
    exact ⟨between, middle, rfl, answered⟩

/-- Where only results follow that are there, the wire stays as the first part left it. -/
theorem bind_orThrow {first : Exchange α} {result : Except Failure α}
    {next : α → Except Failure β} (reached : first network wire = (result, middle)) :
    (first >>= fun value => Failure.orThrow (next value) : Exchange β) network wire =
      (result >>= next, middle) := by
  cases result with
  | error failure => exact bind_of_error reached
  | ok value =>
      rw [bind_of_ok reached]
      exact orThrow_eq _

/-- What follows a failure is not done after an answer. -/
theorem tryCatch_of_ok {first : Exchange α} {next : Failure → Exchange α} {value : α}
    (answered : first network wire = (.ok value, middle)) :
    (tryCatch first next : Exchange α) network wire = (.ok value, middle) := by
  change Exchange.handle first next network wire = _
  rw [Exchange.handle, answered]

/-- What follows a failure is done where the failure left the wire. -/
theorem tryCatch_of_error {first : Exchange α} {next : Failure → Exchange α} {failure : Failure}
    (failed : first network wire = (.error failure, middle)) :
    (tryCatch first next : Exchange α) network wire = next failure network middle := by
  change Exchange.handle first next network wire = _
  rw [Exchange.handle, failed]

/-- Whatever a computation comes to is what it is observed to come to. -/
theorem observing_eq (computation : Exchange α) :
    (observing computation : Exchange (Except Failure α)) network wire =
      (.ok (computation network wire).1, (computation network wire).2) := by
  unfold observing
  rcases reached : computation network wire with ⟨failure | value, middle⟩
  · exact tryCatch_of_error (bind_of_error reached)
  · exact tryCatch_of_ok (bind_of_ok reached)

/-! ### Computations that answer -/

/-- A computation answers, whatever the network does. -/
def IsTotal (computation : Exchange α) : Prop :=
  ∀ network wire, ∃ value ended, computation network wire = (.ok value, ended)

theorem isTotal_pure (value : α) : (Pure.pure value : Exchange α).IsTotal :=
  fun _ wire => ⟨value, wire, rfl⟩

theorem isTotal_observing (computation : Exchange α) :
    (observing computation : Exchange (Except Failure α)).IsTotal :=
  fun _ _ => ⟨_, _, observing_eq computation⟩

/-- Two computations that answer do so one after the other. -/
theorem IsTotal.bind {first : Exchange α} {next : α → Exchange β} (total : first.IsTotal)
    (totalToo : ∀ value, (next value).IsTotal) : (first >>= next).IsTotal := by
  intro network wire
  obtain ⟨value, middle, answered⟩ := total network wire
  rw [bind_of_ok answered]
  exact totalToo value network middle

end Http.Exchange

namespace Building

open Http (Exchange Network Wire)

variable {σ κ α β : Type} {network : Network} {wire middle : Wire}

/-- What is asked of a source comes to what the source answers, and nothing else changes. -/
theorem ask_eq {state : σ} {answer : β → α} {question : Exchange β} {result : Except Failure β}
    (answered : question network wire = (result, middle)) :
    ask state answer question network wire = (.ok (result.map answer, state), middle) := by
  unfold ask
  rw [Exchange.bind_of_ok (Exchange.observing_eq question), answered]
  rfl

theorem isTotal_ask (state : σ) (answer : β → α) (question : Exchange β) :
    (ask state answer question).IsTotal :=
  fun _ _ => ⟨_, _, ask_eq rfl⟩

private theorem run_cons_of_ok {perform : σ → κ → Exchange (Except Failure α × σ)}
    {state next last : σ}
    {call : κ} {calls : List κ} {outcome : Except Failure α} {outcomes : List (Except Failure α)}
    {ended : Wire} (first : perform state call network wire = (.ok (outcome, next), middle))
    (others : run perform next calls network middle = (.ok (outcomes, last), ended)) :
    run perform state (call :: calls) network wire = (.ok (outcome :: outcomes, last), ended) := by
  rw [run, Exchange.bind_of_ok first]
  exact Exchange.bind_of_ok others

/-- Calls that answer come to something each, one after the other; what every one of them leaves to
hold holds after all of them. -/
theorem exists_run_of_keeps {perform : σ → κ → Exchange (Except Failure α × σ)}
    (total : ∀ state call, (perform state call).IsTotal) {holds : σ → Prop}
    (keeps : ∀ {state call network wire outcome next middle}, holds state →
      perform state call network wire = (.ok (outcome, next), middle) → holds next)
    {state : σ} (before : holds state) (calls : List κ) (network : Network) (wire : Wire) :
    ∃ outcomes last ended, run perform state calls network wire = (.ok (outcomes, last), ended) ∧
      outcomes.length = calls.length ∧ holds last := by
  induction calls generalizing state wire with
  | nil => exact ⟨[], state, wire, rfl, rfl, before⟩
  | cons call calls inductionHypothesis =>
      obtain ⟨⟨outcome, next⟩, middle, first⟩ := total state call network wire
      obtain ⟨outcomes, last, ended, others, counted, after⟩ :=
        inductionHypothesis (keeps before first) middle
      exact ⟨outcome :: outcomes, last, ended, run_cons_of_ok first others,
        congrArg Nat.succ counted, after⟩

end Building

end ReviewGroups
