/-
Module: ReviewGroups.Proofs.BuildingRun
Purpose: Calls on something that is being built, made one after the other on a source that answers
  whatever it likes and keeps notes of what it is asked. A source is an arbitrary function of all
  that was noted so far, so a result about every source covers sources that change their mind.
  `run_induction` is the induction on the calls, from the last one back; it is the only one, and
  listings and queries each supply one step. Changes are computations whose failures carry the state
  they leave, and the lemmas on changes that read first say what that state is.
Trusted boundary: none
Main exports: Recorder, Recorder.after, Recorder.ask, Building.after_ask,
  Building.run_append_singleton, Building.run_induction, Building.accepted
-/
import Mathlib.Data.List.Induction
import ReviewGroups.Filter.Building

namespace ReviewGroups

/-- A computation that keeps notes.  What was noted stays when it fails. -/
abbrev Recorder (ε : Type) : Type → Type := ExceptT Failure (StateM (List ε))

namespace Recorder

variable {ε α β : Type} {notes seen : List ε}

/-- What a computation comes to after some notes, and all notes afterwards. -/
def after (computation : Recorder ε α) (notes : List ε) : Except Failure α × List ε :=
  computation.run.run notes

/-- Note what is asked, and answer as one likes; the answer may depend on all that was noted. -/
def ask (note : ε) (answer : List ε → Except Failure α) : Recorder ε α :=
  ExceptT.mk fun notes => (answer notes, notes ++ [note])

@[simp] theorem after_pure (value : α) :
    (pure value : Recorder ε α).after notes = (.ok value, notes) :=
  rfl

@[simp] theorem after_orThrow (result : Except Failure α) :
    (Failure.orThrow result : Recorder ε α).after notes = (result, notes) := by
  cases result <;> rfl

/-- After an answer the computation goes on with what is noted by then; after a failure nothing
else is done. -/
theorem after_bind {first : Recorder ε α} {next : α → Recorder ε β} :
    (first >>= next).after notes =
      match first.after notes with
      | (.ok value, seen) => (next value).after seen
      | (.error failure, seen) => (.error failure, seen) := by
  unfold after
  rw [ExceptT.run_bind]
  simp only [StateT.run_bind]
  rcases StateT.run (ExceptT.run first) notes with ⟨_ | _, _⟩ <;> rfl

private theorem after_tryCatch {first : Recorder ε α} {next : Failure → Recorder ε α} :
    (tryCatch first next).after notes =
      match first.after notes with
      | (.ok value, seen) => (.ok value, seen)
      | (.error failure, seen) => (next failure).after seen := by
  unfold after
  rw [ExceptT.run_tryCatch]
  simp only [StateT.run_bind]
  rcases StateT.run (ExceptT.run first) notes with ⟨_ | _, _⟩ <;> rfl

private theorem after_observing {computation : Recorder ε α} :
    (observing computation : Recorder ε (Except Failure α)).after notes =
      (.ok (computation.after notes).1, (computation.after notes).2) := by
  unfold observing
  rw [after_tryCatch, after_bind]
  rcases computation.after notes with ⟨_ | _, _⟩ <;> rfl

end Recorder

namespace Building

variable {ε σ κ α β : Type} {perform : σ → κ → Recorder ε (Except Failure α × σ)}
  {state middle next final : σ} {call : κ} {calls : List κ} {outcome : Except Failure α}
  {outcomes : List (Except Failure α)} {notes seen ended : List ε}

/-- What is asked of a source comes to what the source answers, and nothing else changes. -/
theorem after_ask {answer : β → α} {question : Recorder ε β} :
    (ask state answer question).after notes =
      (.ok ((question.after notes).1.map answer, state), (question.after notes).2) := by
  unfold ask
  rw [Recorder.after_bind, Recorder.after_observing]
  rfl

/-- The calls after the first one are made on what the first one leaves. -/
theorem run_cons (first : (perform state call).after notes = (.ok (outcome, middle), seen))
    (rest : (run perform middle calls).after seen = (.ok (outcomes, final), ended)) :
    (run perform state (call :: calls)).after notes =
      (.ok (outcome :: outcomes, final), ended) := by
  rw [run, Recorder.after_bind, first]
  change (run perform middle calls >>= _ : Recorder ε _).after seen = _
  rw [Recorder.after_bind, rest]
  rfl

/-- The last call is made on what the calls before it leave. -/
theorem run_append_singleton
    (before : (run perform state calls).after notes = (.ok (outcomes, middle), seen))
    (last : (perform middle call).after seen = (.ok (outcome, final), ended)) :
    (run perform state (calls ++ [call])).after notes =
      (.ok (outcomes ++ [outcome], final), ended) := by
  induction calls generalizing state outcomes notes with
  | nil =>
      cases before
      exact run_cons last rfl
  | cons head calls inductionHypothesis =>
      rw [run, Recorder.after_bind] at before
      rcases made : (perform state head).after notes with ⟨failure | ⟨first, between⟩, noted⟩
      · rw [made] at before
        cases before
      · rw [made] at before
        change (run perform between calls >>= _ : Recorder ε _).after noted = _ at before
        rw [Recorder.after_bind] at before
        rcases reached : (run perform between calls).after noted with ⟨_ | ⟨rest, left⟩, written⟩
        · rw [reached] at before
          cases before
        · rw [reached] at before
          cases before
          exact run_cons made (inductionHypothesis reached)

/-- What holds before the first call, and is kept by every call, holds after any calls.  It may
speak of the calls that were made, of what came of them, of the state and of the notes. -/
theorem run_induction
    {motive : List κ → List (Except Failure α) → σ → List ε → Prop}
    (start : motive [] [] state notes)
    (step : ∀ calls outcomes middle seen call, motive calls outcomes middle seen →
      ∃ outcome next ended,
        (perform middle call).after seen = (.ok (outcome, next), ended) ∧
          motive (calls ++ [call]) (outcomes ++ [outcome]) next ended)
    (calls : List κ) :
    ∃ outcomes final ended,
      (run perform state calls).after notes = (.ok (outcomes, final), ended) ∧
        motive calls outcomes final ended := by
  induction calls using List.reverseRecOn with
  | nil => exact ⟨[], state, notes, rfl, start⟩
  | append_singleton calls call inductionHypothesis =>
      obtain ⟨outcomes, middle, seen, before, held⟩ := inductionHypothesis
      obtain ⟨outcome, final, ended, last, kept⟩ := step calls outcomes middle seen call held
      exact ⟨_, final, ended, run_append_singleton before last, kept⟩

/-! ### Changes that read first -/

section Reading

variable {result : Except Misuse β} {use : β → σ → σ}

/-- What is read as a whole is put to use as a whole; what cannot be read leaves the state alone. -/
theorem run_ofExcept_modify :
    (do let value ← ofExcept result; modify (use value) : EStateM Misuse σ Unit).run state =
      match result with
      | .ok value => .ok () (use value state)
      | .error misuse => .error misuse state := by
  cases result <;> rfl

/-- A change that reads first comes about exactly if there is something to read. -/
theorem run_ofExcept_modify_eq_ok_iff :
    (do let value ← ofExcept result; modify (use value) : EStateM Misuse σ Unit).run state =
        .ok () next ↔
      ∃ value, result = .ok value ∧ use value state = next := by
  rw [run_ofExcept_modify]
  cases result <;> simp

/-- Whether a change that reads first comes about depends on the reading alone. -/
theorem exists_run_ofExcept_modify_iff :
    (∃ next,
        (do let value ← ofExcept result; modify (use value) : EStateM Misuse σ Unit).run state =
          .ok () next) ↔
      ∃ value, result = .ok value := by
  simp only [run_ofExcept_modify_eq_ok_iff]
  exact ⟨fun ⟨_, value, read, _⟩ => ⟨value, read⟩, fun ⟨value, read⟩ => ⟨_, value, read, rfl⟩⟩

/-- A change that reads first fails as the reading does, before it changes anything. -/
theorem run_ofExcept_modify_eq_error_iff {misuse : Misuse} :
    (do let value ← ofExcept result; modify (use value) : EStateM Misuse σ Unit).run state =
        .error misuse next ↔
      result = .error misuse ∧ state = next := by
  rw [run_ofExcept_modify]
  cases result <;> simp

end Reading

/-! ### What calls contribute -/

theorem filterMap_append_singleton {τ β : Type} (part? : τ → Option β) (steps : List τ) (step : τ) :
    (steps ++ [step]).filterMap part? = steps.filterMap part? ++ (part? step).toList := by
  rw [List.filterMap_append]
  cases given : part? step <;> simp [given]

/-- What the last step sets counts, and if it sets nothing, what was set before. -/
theorem getLast?_filterMap_append_singleton {τ β : Type} (part? : τ → Option β) (steps : List τ)
    (step : τ) (default : β) :
    (((steps ++ [step]).filterMap part?).getLast?).getD default =
      (part? step).getD (((steps.filterMap part?).getLast?).getD default) := by
  rw [filterMap_append_singleton]
  cases given : part? step <;> simp

/-- The steps that were taken: those of the calls that ask for one and did not fail. -/
def accepted {τ : Type} (step? : κ → Option τ) (calls : List κ)
    (outcomes : List (Except Failure α)) : List τ :=
  (calls.zip outcomes).filterMap fun made =>
    match made.2 with
    | .ok _ => step? made.1
    | .error _ => none

/-- The last call adds its step to those that were taken, unless it failed. -/
theorem accepted_append_singleton {τ : Type} (step? : κ → Option τ) (call : κ)
    (outcome : Except Failure α) (sameLength : calls.length = outcomes.length) :
    accepted step? (calls ++ [call]) (outcomes ++ [outcome]) =
      accepted step? calls outcomes ++
        match outcome with
        | .ok _ => (step? call).toList
        | .error _ => [] := by
  unfold accepted
  rw [List.zip_append sameLength, List.filterMap_append]
  cases outcome with
  | error failure => rfl
  | ok answer => cases asked : step? call <;> simp [asked]

end Building

end ReviewGroups
