/-
Module: ReviewGroups.Filter.Building
Purpose: Calls on something that is being built or kept, one after the other, whatever comes of
  each.
Trusted boundary: none
Main exports: Building.changed, Building.ask, Building.run
-/
import ReviewGroups.Failure

namespace ReviewGroups.Building

/-!
A call comes to an outcome, which may be a failure, and in either case it says what is there
afterwards.  Nothing is undone after a failure: that a failing call leaves things as they were is
for each kind of call to show.

Changes are computations of `EStateM`, where a failure carries the state that was reached.
-/

variable {m : Type → Type} [Monad m] [MonadExceptOf Failure m] {σ κ α β : Type}

/-- A change as a call that answers in the same way each time. -/
def changed (answer : α) : EStateM.Result Misuse σ Unit → Except Failure α × σ
  | .ok () next => (.ok answer, next)
  | .error misuse next => (.error (.misuse misuse), next)

/-- Ask a source for something, and change nothing here. -/
def ask (state : σ) (answer : β → α) (question : m β) : m (Except Failure α × σ) := do
  let outcome ← observing question
  pure (outcome.map answer, state)

/-- Make calls one after the other; the next one is made whatever came of the one before it. -/
def run (perform : σ → κ → m (Except Failure α × σ)) :
    σ → List κ → m (List (Except Failure α) × σ)
  | state, [] => pure ([], state)
  | state, call :: calls => do
      let (outcome, next) ← perform state call
      let (outcomes, last) ← run perform next calls
      pure (outcome :: outcomes, last)

end ReviewGroups.Building
