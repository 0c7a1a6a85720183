/-
Module: ReviewGroups.Proofs.TextShape
Purpose: The calls about the name and the description of a group keep to the shape of their answers
  exactly for the texts that do not carry a value of another kind; such a value is handed on. A text
  carries at most one value (`Task.Carries`); which values a call admits is a field of `Wording`.
  Texts may be nested to any depth here.
Trusted boundary: none
Main exports: Rest.Wording, Wording.Tells, Wording.Strays, Rest.WordingOutcome,
  Wording.wordings_keep_shape_iff
-/
import ReviewGroups.Proofs.GroupCall

namespace ReviewGroups.Rest

open Http

/-! ### Calls about names and descriptions -/

/-- The calls that read or change the name of a group, or its description. -/
inductive Wording where
  | name (id : Value)
  | rename (id next : Value)
  | description (id : Value)
  | describe (id next : Value)

namespace Wording

/-- The call that is made. -/
def call : Wording → Call
  | .name id => .getName id
  | .rename id next => .putName id next
  | .description id => .getDescription id
  | .describe id next => .putDescription id next

/-- The values that may be answered: a name is a text, and a description is a text or missing. -/
def Admits : Wording → Json → Prop
  | .name _, data | .rename .., data => ∃ s, data = .text s
  | .description _, data | .describe .., data => data = .null ∨ ∃ s, data = .text s

/-- What a text tells the caller of a task: the value that it carries, if that may be answered, and
whatever it carries nothing when the description is deleted. -/
inductive Tells (wording : Wording) (task : Task) (text : String) : Answer → Prop where
  | deleted (deletes : task.method = .delete) : Tells wording task text .nothing
  | carried {data : Json} (looked : task.method ≠ .delete) (carries : task.Carries text data)
      (admits : wording.Admits data) : Tells wording task text (.json data)

/-- A text strays: it carries a value that must not be answered. -/
structure Strays (wording : Wording) (task : Task) (text : String) (data : Json) : Prop where
  looked : task.method ≠ .delete
  carries : task.Carries text data
  refused : ¬ wording.Admits data

/-- The tasks that a call about names and descriptions may stand for. -/
inductive IsTask : Wording → Task → Prop where
  | name {given : Value} {id : String} : IsTask (.name given) (.getName id)
  | rename {given next : Value} {id name : String} : IsTask (.rename given next) (.putName id name)
  | description {given : Value} {id : String} : IsTask (.description given) (.getDescription id)
  | describe {given next : Value} {id description : String} :
      IsTask (.describe given next) (.putDescription id description)
  | delete {given next : Value} {id : String} :
      IsTask (.describe given next) (.deleteDescription id)

variable {client : Client} {way : GroupCall} {task : Task} {text : String} {network : Network}
  {wire : Wire} {wording : Wording} {outcome : Except Failure Answer}

/-- A call whose arguments are in order stands for one of its tasks. -/
theorem isTask_of_ofCall (made : Task.ofCall wording.call = .ok task) : wording.IsTask task := by
  cases wording with
  | name given =>
      change Task.ofCall (.getName given) = .ok task at made
      obtain ⟨id, -, made⟩ := Result.bind_eq_ok_iff.1 made
      cases made
      exact .name
  | rename given next =>
      change Task.ofCall (.putName given next) = .ok task at made
      obtain ⟨id, -, made⟩ := Result.bind_eq_ok_iff.1 made
      obtain ⟨input, -, made⟩ := Result.bind_eq_ok_iff.1 made
      cases made
      exact .rename
  | description given =>
      change Task.ofCall (.getDescription given) = .ok task at made
      obtain ⟨id, -, made⟩ := Result.bind_eq_ok_iff.1 made
      cases made
      exact .description
  | describe given next =>
      change Task.ofCall (.putDescription given next) = .ok task at made
      obtain ⟨id, -, made⟩ := Result.bind_eq_ok_iff.1 made
      obtain ⟨read, -, made⟩ := Result.bind_eq_ok_iff.1 made
      cases read with
      | none =>
          cases made
          exact .delete
      | some read =>
          cases made
          exact .describe

private theorem answer_of_deletes (isTask : wording.IsTask task) (deletes : task.method = .delete) :
    task.decode text >>= task.answer = .ok .nothing := by
  cases isTask with
  | delete => rfl
  | _ => cases deletes

private theorem answer_of_looked (isTask : wording.IsTask task) (looked : task.method ≠ .delete)
    {answer : Answer} :
    task.decode text >>= task.answer = .ok answer ↔
      ∃ data, task.Carries text data ∧ answer = .json data := by
  have kept (data : Json) : task.answer data = .ok (.json data) := by
    cases isTask with
    | delete => exact absurd rfl looked
    | _ => rfl
  simp only [Result.bind_eq_ok_iff, kept, Task.decode_eq_ok_iff_carries looked, Except.ok.injEq,
    @eq_comm _ answer]

private theorem answer_error (isTask : wording.IsTask task) {failure : Failure}
    (failed : task.decode text >>= task.answer = .error failure) : failure.IsMalformed := by
  rcases Result.bind_eq_error_iff.1 failed with undecoded | ⟨data, -, refused⟩
  · exact Task.decode_error undecoded
  · cases isTask <;> cases refused

end Wording

/-- What comes of a call about names and descriptions that is answered with a text: what the text
tells, and otherwise the value that it carries though it strays, and the report that the answer is
malformed where it carries none. -/
structure WordingOutcome (wording : Wording) (task : Task) (text : String)
    (outcome : Except Failure Answer) : Prop where
  answers_iff : ∀ answer, outcome = .ok answer ↔
    wording.Tells task text answer ∨ ∃ data, wording.Strays task text data ∧ answer = .json data
  malformed : ∀ failure, outcome = .error failure → failure.IsMalformed

/-- A value that is answered though it must not be is out of shape. -/
theorem WordingOutcome.keepsShape_iff {wording : Wording} {task : Task} {text : String}
    {outcome : Except Failure Answer} (comes : WordingOutcome wording task text outcome) :
    KeepsShape (wording.Tells task text) outcome ↔ ∀ data, ¬ wording.Strays task text data := by
  constructor
  · intro keeps data strays
    have answered := (comes.answers_iff (.json data)).2 (.inr ⟨data, strays, rfl⟩)
    cases (keeps.answers_iff _).1 answered with
    | carried looked carries admits => exact strays.refused admits
  · intro straight
    refine ⟨fun answer => (comes.answers_iff answer).trans ?_, comes.malformed⟩
    exact or_iff_left fun ⟨data, strays, _⟩ => straight data strays

namespace Wording

variable {client : Client} {way : GroupCall} {task : Task} {text : String} {network : Network}
  {wire : Wire} {wording : Wording}

/-- The text of an answer with success decides what comes of a call about names and
descriptions. -/
theorem isOutcome (words : way.call = wording.call)
    (answered : way.IsAnswered client task text network wire) :
    WordingOutcome wording task text (way.run client network wire).1 := by
  have isTask : wording.IsTask task := by
    apply isTask_of_ofCall
    rw [← words]
    exact answered.1
  rw [GroupCall.outcome_of_isAnswered answered]
  refine ⟨fun answer => ?_, fun failure => answer_error isTask⟩
  by_cases deletes : task.method = .delete
  · rw [answer_of_deletes isTask deletes]
    constructor
    · intro answered
      cases answered
      exact .inl (.deleted deletes)
    · rintro (told | ⟨data, strays, -⟩)
      · cases told with
        | deleted _ => rfl
        | carried looked => exact absurd deletes looked
      · exact absurd deletes strays.looked
  · rw [answer_of_looked isTask deletes]
    constructor
    · rintro ⟨data, carries, rfl⟩
      by_cases admits : wording.Admits data
      · exact .inl (.carried deletes carries admits)
      · exact .inr ⟨data, ⟨deletes, carries, admits⟩, rfl⟩
    · rintro (told | ⟨data, strays, rfl⟩)
      · cases told with
        | deleted deletesToo => exact absurd deletesToo deletes
        | @carried data _ carries _ => exact ⟨data, carries, rfl⟩
      · exact ⟨data, strays.carries, rfl⟩

/-- A call about names and descriptions keeps to the shape of its answers exactly if the text does
not stray; what comes of it is settled for every text. -/
theorem wordings_keep_shape_iff (words : way.call = wording.call)
    (answered : way.IsAnswered client task text network wire) :
    WordingOutcome wording task text (way.run client network wire).1 ∧
      (KeepsShape (wording.Tells task text) (way.run client network wire).1 ↔
        ∀ data, ¬ wording.Strays task text data) :=
  have comes := isOutcome words answered
  ⟨comes, comes.keepsShape_iff⟩

/-! ### Samples -/

open Operation (anonymousClient)

/-- The call for the name of a group. -/
def sampleName : Wording := .name (.text "x")

private theorem isAnswered_sampleName (text : String) :
    (GroupCall.direct sampleName.call).IsAnswered anonymousClient (.getName "x") text
      (answering text) .fresh :=
  GroupCall.isAnswered_answering rfl (by decide +kernel) text

/-- The text of a name. -/
def namedText : String := guarded (.text "Admins")

/-- The name that is written is told. -/
theorem wordings_keep_shape_named :
    (GroupCall.direct sampleName.call).call = sampleName.call ∧
      (GroupCall.direct sampleName.call).IsAnswered anonymousClient (.getName "x") namedText
        (answering namedText) .fresh ∧
      ((GroupCall.direct sampleName.call).run anonymousClient (answering namedText) .fresh).1 =
        .ok (.json (.text "Admins")) := by
  have answered := isAnswered_sampleName namedText
  have words : (GroupCall.direct sampleName.call).call = sampleName.call := rfl
  obtain ⟨comes, -⟩ := wordings_keep_shape_iff words answered
  have carries : (Task.getName "x").Carries namedText (.text "Admins") :=
    .written (parse_guarded (.text "Admins"))
  exact ⟨words, answered, (comes.answers_iff _).2 (.inl (.carried (by decide) carries ⟨_, rfl⟩))⟩

/-- The text of an empty object. -/
def strayText : String := guarded (.object [])

/-- An object is handed on as the name of a group. -/
theorem object_handed_on :
    (GroupCall.direct sampleName.call).IsAnswered anonymousClient (.getName "x") strayText
        (answering strayText) .fresh ∧
      ((GroupCall.direct sampleName.call).run anonymousClient (answering strayText) .fresh).1 =
        .ok (.json (.object [])) ∧
      ¬ sampleName.Tells (.getName "x") strayText (.json (.object [])) := by
  have answered := isAnswered_sampleName strayText
  have words : (GroupCall.direct sampleName.call).call = sampleName.call := rfl
  have exact : (Json.object []).IsExact := .object .nil fun _ inside => nomatch inside
  have refused : ¬ sampleName.Admits (.object []) := fun ⟨_, same⟩ => nomatch same
  have strays : sampleName.Strays (.getName "x") strayText (.object []) :=
    ⟨by decide, .written (parse_guarded exact), refused⟩
  refine ⟨answered, ((isOutcome words answered).answers_iff _).2 (.inr ⟨_, strays, rfl⟩), ?_⟩
  intro told
  cases told with
  | carried looked carries admits => exact refused admits

end Wording

end ReviewGroups.Rest
