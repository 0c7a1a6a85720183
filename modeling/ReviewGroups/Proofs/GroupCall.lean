/-
Module: ReviewGroups.Proofs.GroupCall
Purpose: The calls that concern a single group, made directly or through a handle: once the server
  has answered with success, the text of the answer alone decides what comes of them. The shape of
  an answer is looked at in `OptionsShape`, `AdditionShape` and `TextShape`; what those have in
  common is here, together with the network and the texts that their samples use.
Trusted boundary: none
Main exports: Rest.GroupCall, GroupCall.run, GroupCall.IsAnswered,
  GroupCall.outcome_of_isAnswered, Task.Carries, Task.decode_eq_ok_iff_carries, Rest.KeepsShape
-/
import ReviewGroups.Proofs.HandleAddressing
import ReviewGroups.Proofs.WrittenJson

namespace ReviewGroups

open Http

namespace Rest

/-- The ways to a call that concerns a single group: from the transport itself, or through a handle
on the group. -/
inductive GroupCall where
  | direct (call : Call)
  | through (handle : Handle) (operation : Handle.Operation)

namespace GroupCall

/-- The call that is made in the end. -/
def call : GroupCall → Call
  | .direct call => call
  | .through handle operation => handle.call operation

/-- Make a call. -/
def run (client : Client) : GroupCall → Exchange Answer
  | .direct call => Rest.perform client call
  | .through handle operation => handle.run (Rest.transport client) operation

private theorem run_eq (client : Client) (way : GroupCall) :
    way.run client = Rest.perform client way.call := by
  cases way <;> rfl

/-- The arguments of a call are in order, so that it stands for a task, and the server answers the
request of that with success and with this text. -/
def IsAnswered (client : Client) (way : GroupCall) (task : Task) (text : String)
    (network : Network) (wire : Wire) : Prop :=
  Task.ofCall way.call = .ok task ∧ ∃ sent, task.IsAnswered client text network wire sent

variable {client : Client} {way : GroupCall} {task : Task} {text : String} {network : Network}
  {wire : Wire}

/-- What comes of a call that is answered with a text is what the decoded text says to the caller of
the task. -/
theorem outcome_of_isAnswered (answered : way.IsAnswered client task text network wire) :
    (way.run client network wire).1 = task.decode text >>= task.answer := by
  obtain ⟨made, sent, answered⟩ := answered
  rw [run_eq]
  exact Task.outcome_of_isAnswered made answered fun data =>
    congrArg Prod.fst (Exchange.orThrow_eq (task.answer data))

end GroupCall

/-! ### What a text carries -/

/-- A text carries a value as the answer to a task: it writes the value behind the guard, or it is
blank, which stands for null unless the task gets something. -/
inductive Task.Carries (task : Task) (text : String) : Json → Prop where
  | written {data : Json} (parsed : Json.parse (dropGuard text) = .ok data) : Carries task text data
  | blank (optional : task.method ≠ .get) (blank : Text.isBlankText text = true) :
      Carries task text .null

/-- What is decoded of an answer that is looked at is the value that the text carries. -/
theorem Task.decode_eq_ok_iff_carries {task : Task} {text : String} {data : Json}
    (looked : task.method ≠ .delete) : task.decode text = .ok data ↔ task.Carries text data := by
  -- Two of the methods may be answered with a blank text.
  have optional_iff (optional : task.method ≠ .get) :
      decodeOptional text = .ok data ↔ task.Carries text data := by
    rw [decodeOptional_eq_ok_iff]
    constructor
    · rintro (⟨blank, rfl⟩ | parsed)
      · exact .blank optional blank
      · exact .written parsed
    · rintro (parsed | ⟨-, blank⟩)
      · exact .inr parsed
      · exact .inl ⟨blank, rfl⟩
  unfold Task.decode
  cases method : task.method with
  | get =>
      rw [decodeJson_eq_ok_iff]
      constructor
      · exact .written
      · rintro (parsed | ⟨optional, -⟩)
        · exact parsed
        · exact absurd method optional
  | put => exact optional_iff (by simp [method])
  | post => exact optional_iff (by simp [method])
  | delete => exact absurd method looked

/-- A call keeps to the shape of its answers: it answers exactly what is said to the caller, and
reports everything else as malformed. -/
structure KeepsShape (said : Answer → Prop) (outcome : Except Failure Answer) : Prop where
  answers_iff : ∀ answer, outcome = .ok answer ↔ said answer
  malformed : ∀ failure, outcome = .error failure → failure.IsMalformed

/-! ### Samples -/

open Operation (anonymousClient)

/-- A call whose request the client without credentials can make is answered with any text. -/
theorem GroupCall.isAnswered_answering {way : GroupCall} {task : Task}
    (made : Task.ofCall way.call = .ok task)
    (seen : ((anonymousClient.base >>= fun base =>
      anonymousClient.request base task.intent).toOption.any
        fun request => namesScheme request.address) = true) (text : String) :
    way.IsAnswered anonymousClient task text (answering text) .fresh :=
  ⟨made, Task.exists_isAnswered_answering seen text⟩

/-- The text of a JSON value behind the guard. -/
def guarded (data : Json) : String := guardText ++ Json.render compact data

/-- Behind the guard is what was written there. -/
theorem parse_guarded {data : Json} (exact : data.IsExact) :
    Json.parse (dropGuard (guarded data)) = .ok data := by
  have whole : (guarded data).toList = guardText.toList ++ (Json.render compact data).toList :=
    String.toList_append
  have starts : guardText.toList.isPrefixOf (guarded data).toList = true := by
    rw [List.isPrefixOf_iff_prefix, whole]
    exact List.prefix_append _ _
  have behind : dropGuard (guarded data) = Json.render compact data := by
    unfold dropGuard
    dsimp only
    rw [if_pos starts, whole, List.drop_left, String.ofList_toList]
  rw [behind]
  exact Json.parse_render compact_isPlain exact

end Rest

end ReviewGroups
