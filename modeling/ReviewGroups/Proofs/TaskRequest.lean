/-
Module: ReviewGroups.Proofs.TaskRequest
Purpose: When the request of a task is sent, for every task alike. The path of a task is plain,
  since what a caller gives is escaped in it and the rest is fixed; its parameters can be gathered,
  since those of one name stand together; and so a client makes its request exactly if nothing of
  what `Client.CanSend` lists is in the way. Searches and operations on single groups both come to
  tasks, and need nothing else of a task to tell when they send something.
Trusted boundary: none
Main exports: Task.exists_asksPlainly, Task.exists_gather, Task.exists_request_iff_canSend
-/
import ReviewGroups.Proofs.FittingRequest
import ReviewGroups.Proofs.GatheredParameters
import ReviewGroups.Proofs.GroupAddressing

namespace ReviewGroups.Rest.Task

open Http Url

/-! ### Paths of tasks -/

/-- Below a group a task concerns nothing, or one resource in the name of which nothing needs an
escape. -/
private theorem parts_cases (task : Task) :
    task.parts = [] ∨ ∃ part, task.parts = [part] ∧ part.toList.all pathStays = true := by
  cases task
  case listGroups | queryGroups | resolve | create => exact .inl rfl
  all_goals exact .inr ⟨_, rfl, by decide⟩

/-- The path of a task starts with that of all groups, and nothing in it needs an escape. -/
private theorem exists_path (task : Task) :
    ∃ tail, task.path.toList = "/groups/".toList ++ tail ∧ ∀ c ∈ tail, pathStays c = true := by
  unfold path
  cases task.identifier? with
  | none => exact ⟨[], by simp [collectionPath], by simp⟩
  | some id =>
      have escaped (c : Char) (present : c ∈ (encodeIdentifier id).toList) : pathStays c = true :=
        pathStays_of_mem_encodeIdentifier present
      rcases task.parts_cases with none | ⟨part, one, stays⟩
      · rw [none]
        refine ⟨(encodeIdentifier id).toList, ?_, escaped⟩
        simp [groupPath]
      · rw [one]
        refine ⟨(encodeIdentifier id).toList ++ '/' :: part.toList, ?_, ?_⟩
        · simp [groupPath]
        · rw [List.forall_mem_append, List.forall_mem_cons]
          exact ⟨escaped, by decide, List.all_eq_true.1 stays⟩

/-- A task is asked for plainly. -/
theorem exists_asksPlainly (client : Client) (task : Task) :
    ∃ rest, client.AsksPlainly task.intent.path rest := by
  obtain ⟨tail, written, stays⟩ := task.exists_path
  have front : ∀ c ∈ "groups/".toList, pathStays c = true := List.all_eq_true.1 (by decide)
  have whole : task.intent.path.toList = '/' :: ("groups/".toList ++ tail) := written
  exact Client.exists_asksPlainly whole (by simp) (List.forall_mem_append.2 ⟨front, stays⟩)

/-! ### Parameters of tasks -/

private theorem exists_gather_of_runs {parameters : List ReviewGroups.Parameter}
    (grouped : ∃ runs, (Keyed.keys runs).Nodup ∧ parameters = Parameter.ofRuns runs) :
    ∃ gathered, Http.Parameter.gather
      (.items .list (parameters.map ReviewGroups.Parameter.toValue)) = .ok gathered := by
  obtain ⟨runs, distinct, rfl⟩ := grouped
  obtain ⟨values, gather, -⟩ := Parameter.exists_gather_ofRuns distinct
  exact ⟨_, gather⟩

/-- The parameters of a task can be gathered. -/
theorem exists_gather (task : Task) :
    ∃ parameters, Http.Parameter.gather task.intent.givenParameters = .ok parameters := by
  cases task with
  | listGroups filter => exact exists_gather_of_runs filter.exists_runs
  | queryGroups filter => exact exists_gather_of_runs filter.exists_runs
  | listMembers id recursive => cases recursive <;> exact ⟨_, rfl⟩
  | _ => exact ⟨_, rfl⟩

/-! ### Requests of tasks -/

/-- Behind a valid base URL, a client can make the request of a task whose body can be written
exactly if nothing keeps that from being sent. -/
theorem exists_request_iff_canSend {client : Client} {base : Address} {task : Task}
    {body : Option Json} {time : Value} (valid : client.HasValidBase base)
    (isBody : task.body.requestBody = .ok body) (patient : client.patience = .ok time) :
    (∃ request, client.request base task.intent = .ok request) ↔
      client.CanSend base task.intent := by
  obtain ⟨rest, asks⟩ := task.exists_asksPlainly client
  obtain ⟨parameters, gathered⟩ := task.exists_gather
  have isMethod := task.method.upperMethod_name
  exact Client.exists_request_iff_canSend valid asks rfl gathered isMethod isBody patient

end ReviewGroups.Rest.Task
