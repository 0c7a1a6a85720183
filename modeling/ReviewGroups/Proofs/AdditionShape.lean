/-
Module: ReviewGroups.Proofs.AdditionShape
Purpose: The calls that add to a group keep to the shape of their answers exactly for the texts that
  do not write one of the values that are taken for an empty list without being looked at. A text
  stands for one of three things: a list of what was added, a hollow value, or something malformed;
  `AdditionOutcome` has one constructor for each, and the outcome is decided by the text before the
  network, the wire and the client are known. Members and groups are one case, with the kind of
  entry as a parameter. Texts may be nested to any depth here.
Trusted boundary: none
Main exports: Json.IsHollow, Payload.additions_eq_ok_iff, Rest.Addition, Rest.TellsAdded,
  Rest.AdditionOutcome, Addition.additions_keep_shape_iff
-/
import ReviewGroups.Proofs.GroupCall

namespace ReviewGroups

open Http

/-! ### Values that count as nothing -/

/-- A value counts as nothing, though it is neither null nor a list. -/
inductive Json.IsHollow : Json → Prop where
  | no : IsHollow (.bool false)
  | zero : IsHollow (.int 0)
  | pointZero {x : Binary64} (zero : x.toInt? = some 0) : IsHollow (.float x)
  | text : IsHollow (.text "")
  | object : IsHollow (.object [])

/-- Nothing is null, an empty list, or hollow. -/
theorem Json.isNothing_iff {data : Json} :
    data.isNothing = true ↔ data = .null ∨ data = .list [] ∨ data.IsHollow := by
  constructor
  · intro counts
    cases data with
    | null => exact .inl rfl
    | bool b =>
        obtain rfl : b = false := by simpa [isNothing] using counts
        exact .inr (.inr .no)
    | int n =>
        obtain rfl : n = 0 := by simpa [isNothing] using counts
        exact .inr (.inr .zero)
    | float x => exact .inr (.inr (.pointZero (by simpa [isNothing] using counts)))
    | text s =>
        obtain rfl : s = "" := by simpa [isNothing] using counts
        exact .inr (.inr .text)
    | list items =>
        obtain rfl : items = [] := by simpa [isNothing] using counts
        exact .inr (.inl rfl)
    | object members =>
        obtain rfl : members = [] := by simpa [isNothing] using counts
        exact .inr (.inr .object)
  · rintro (rfl | rfl | hollow)
    · rfl
    · rfl
    · cases hollow with
      | no => rfl
      | zero => rfl
      | pointZero zero => simp [isNothing, zero]
      | text => rfl
      | object => rfl

theorem Json.IsHollow.not_isListOf {α : Type} {reads : Json → α → Prop} {data : Json}
    {parts : List α} (hollow : data.IsHollow) : ¬ data.IsListOf reads parts := by
  rintro ⟨-⟩
  cases hollow

/-- An empty list has no parts. -/
theorem Json.isListOf_nil_iff {α : Type} {reads : Json → α → Prop} {parts : List α} :
    (Json.list []).IsListOf reads parts ↔ parts = [] := by
  constructor
  · rintro ⟨all⟩
    exact List.forall₂_nil_left_iff.1 all
  · rintro rfl
    exact .items .nil

/-- What takes the parts of a list takes additions to be the parts of a list, and none for null and
for what is hollow. -/
theorem Payload.additions_eq_ok_iff {α : Type} {take : Json → Except Failure (List α)}
    {reads : Json → α → Prop}
    (takes : ∀ {data parts}, take data = .ok parts ↔ data.IsListOf reads parts) {data : Json}
    {parts : List α} :
    take (additions data) = .ok parts ↔
      data.IsListOf reads parts ∨ ((data = .null ∨ data.IsHollow) ∧ parts = []) := by
  unfold additions
  split
  next counts =>
    rw [takes, Json.isListOf_nil_iff]
    constructor
    · rintro rfl
      rcases Json.isNothing_iff.1 counts with null | rfl | hollow
      · exact .inr ⟨.inl null, rfl⟩
      · exact .inl (Json.isListOf_nil_iff.2 rfl)
      · exact .inr ⟨.inr hollow, rfl⟩
    · rintro (list | ⟨-, none⟩)
      · rcases Json.isNothing_iff.1 counts with rfl | rfl | hollow
        · cases list
        · exact Json.isListOf_nil_iff.1 list
        · exact absurd list hollow.not_isListOf
      · exact none
  next counts =>
    rw [takes]
    constructor
    · exact .inl
    · rintro (list | ⟨null | hollow, -⟩)
      · exact list
      · exact absurd (Json.isNothing_iff.2 (.inl null)) counts
      · exact absurd (Json.isNothing_iff.2 (.inr (.inr hollow))) counts

namespace Rest

/-! ### Calls that add -/

/-- The calls that add members to a group, or groups to those that it includes. -/
inductive Addition where
  | members (id added : Value)
  | groups (id added : Value)

/-- The call that is made. -/
def Addition.call : Addition → Call
  | .members id added => .addMembers id added
  | .groups id added => .addIncludedGroups id added

/-- A text tells what was added: the parts of a list in their order, and none if the text is blank
or writes null. -/
inductive TellsAdded {α : Type} (reads : Json → α → Prop) (text : String) : List α → Prop where
  | blank (blank : Text.isBlankText text = true) : TellsAdded reads text []
  | null (parsed : Json.parse (dropGuard text) = .ok .null) : TellsAdded reads text []
  | list {data : Json} {parts : List α} (parsed : Json.parse (dropGuard text) = .ok data)
      (list : data.IsListOf reads parts) : TellsAdded reads text parts

/-- A text writes a hollow value behind the guard. -/
def WritesHollow (text : String) : Prop :=
  ∃ data, Json.parse (dropGuard text) = .ok data ∧ data.IsHollow

variable {client : Client} {way : GroupCall} {task : Task} {text : String} {network : Network}
  {wire : Wire} {addition : Addition} {outcome : Except Failure Answer}

/-- A text that writes a hollow value tells of no addition. -/
theorem WritesHollow.not_tellsAdded {α : Type} {reads : Json → α → Prop} {parts : List α}
    (writes : WritesHollow text) : ¬ TellsAdded reads text parts := by
  obtain ⟨data, parsed, hollow⟩ := writes
  intro told
  cases told with
  | blank blank =>
      have null := decodeOptional_eq_ok_iff.2 (.inl ⟨blank, rfl⟩)
      rw [decodeOptional_eq_ok_iff.2 (.inr parsed)] at null
      cases null
      cases hollow
  | null parsedToo =>
      rw [parsed] at parsedToo
      cases parsedToo
      cases hollow
  | list parsedToo list =>
      rw [parsed] at parsedToo
      cases parsedToo
      exact hollow.not_isListOf list

/-- A task that posts and answers with the additions that are taken answers what the text tells to
be added, and that nothing was where it writes a hollow value. -/
theorem Task.added_eq_ok_iff {α : Type} {take : Json → Except Failure (List α)}
    {reads : Json → α → Prop} {tell : List α → Answer} (posts : task.method = .post)
    (takes : ∀ {data parts}, take data = .ok parts ↔ data.IsListOf reads parts)
    (answers : ∀ data, task.answer data = (take (Payload.additions data)).map tell)
    {answer : Answer} :
    task.decode text >>= task.answer = .ok answer ↔
      (∃ parts, TellsAdded reads text parts ∧ answer = tell parts) ∨
        (WritesHollow text ∧ answer = tell []) := by
  have decode_iff {data : Json} : task.decode text = .ok data ↔ task.Carries text data :=
    Task.decode_eq_ok_iff_carries (by simp [posts])
  have answer_iff {data : Json} : task.answer data = .ok answer ↔
      ∃ parts, (data.IsListOf reads parts ∨ ((data = .null ∨ data.IsHollow) ∧ parts = [])) ∧
        tell parts = answer := by
    simp only [answers, Result.map_eq_ok_iff, Payload.additions_eq_ok_iff takes]
  rw [Result.bind_eq_ok_iff]
  constructor
  · rintro ⟨data, decoded, answered⟩
    obtain ⟨parts, taken, rfl⟩ := answer_iff.1 answered
    cases decode_iff.1 decoded with
    | written parsed =>
        rcases taken with list | ⟨rfl | hollow, rfl⟩
        · exact .inl ⟨parts, .list parsed list, rfl⟩
        · exact .inl ⟨[], .null parsed, rfl⟩
        · exact .inr ⟨⟨data, parsed, hollow⟩, rfl⟩
    | blank _ blank =>
        rcases taken with list | ⟨-, rfl⟩
        · cases list
        · exact .inl ⟨[], .blank blank, rfl⟩
  · rintro (⟨parts, told, rfl⟩ | ⟨⟨data, parsed, hollow⟩, rfl⟩)
    · cases told with
      | blank blank =>
          exact ⟨.null, decode_iff.2 (.blank (by simp [posts]) blank),
            answer_iff.2 ⟨[], .inr ⟨.inl rfl, rfl⟩, rfl⟩⟩
      | null parsed =>
          exact ⟨.null, decode_iff.2 (.written parsed),
            answer_iff.2 ⟨[], .inr ⟨.inl rfl, rfl⟩, rfl⟩⟩
      | @list data _ parsed list =>
          exact ⟨data, decode_iff.2 (.written parsed), answer_iff.2 ⟨parts, .inl list, rfl⟩⟩
    · exact ⟨data, decode_iff.2 (.written parsed),
        answer_iff.2 ⟨[], .inr ⟨.inr hollow, rfl⟩, rfl⟩⟩

namespace Addition

/-- What a text tells the caller to be added: accounts or groups. -/
def Tells (addition : Addition) (text : String) (answer : Answer) : Prop :=
  match addition with
  | .members .. => ∃ accounts, TellsAdded Json.DescribesAccount text accounts ∧
      answer = .accounts accounts
  | .groups .. => ∃ groups, TellsAdded Json.DescribesGroup text groups ∧ answer = .groups groups

/-- The answer that nothing was added. -/
def nothingAdded : Addition → Answer
  | .members .. => .accounts []
  | .groups .. => .groups []

/-- The tasks that an addition may stand for. -/
inductive IsTask : Addition → Task → Prop where
  | members {added given : Value} {id : String} {members : List String} :
      IsTask (.members given added) (.addMembers id members)
  | groups {added given : Value} {id : String} {groups : List String} :
      IsTask (.groups given added) (.addIncludedGroups id groups)

/-- An addition whose arguments are in order stands for one of its tasks. -/
theorem isTask_of_ofCall (made : Task.ofCall addition.call = .ok task) : addition.IsTask task := by
  cases addition with
  | members given added =>
      change Task.ofCall (.addMembers given added) = .ok task at made
      obtain ⟨id, -, made⟩ := Result.bind_eq_ok_iff.1 made
      obtain ⟨input, -, made⟩ := Result.bind_eq_ok_iff.1 made
      cases made
      exact .members
  | groups given added =>
      change Task.ofCall (.addIncludedGroups given added) = .ok task at made
      obtain ⟨id, -, made⟩ := Result.bind_eq_ok_iff.1 made
      obtain ⟨input, -, made⟩ := Result.bind_eq_ok_iff.1 made
      cases made
      exact .groups

/-- What is answered to the task of an addition is what the text tells, and that nothing was added
where it writes a hollow value. -/
private theorem answer_eq_ok_iff (isTask : addition.IsTask task) {answer : Answer} :
    task.decode text >>= task.answer = .ok answer ↔
      addition.Tells text answer ∨ (WritesHollow text ∧ answer = addition.nothingAdded) := by
  cases isTask with
  | members => exact Task.added_eq_ok_iff rfl Payload.accounts_eq_ok_iff fun _ => rfl
  | groups => exact Task.added_eq_ok_iff rfl Payload.groups_eq_ok_iff fun _ => rfl

private theorem answer_error (isTask : addition.IsTask task) {data : Json} {failure : Failure}
    (refused : task.answer data = .error failure) : failure.IsMalformed := by
  cases isTask with
  | members => exact Payload.accounts_error (Result.map_eq_error_iff.1 refused)
  | groups => exact Payload.groups_error (Result.map_eq_error_iff.1 refused)

private theorem not_tells_nothingAdded (writes : WritesHollow text) :
    ¬ addition.Tells text addition.nothingAdded := by
  cases addition with
  | members given added =>
      rintro ⟨accounts, told, -⟩
      exact writes.not_tellsAdded told
  | groups given added =>
      rintro ⟨groups, told, -⟩
      exact writes.not_tellsAdded told

end Addition

/-- What comes of an addition that is answered with a text: what the text tells, and otherwise that
nothing was added where the text writes a hollow value, and the report that the answer is malformed
where it does not. -/
structure AdditionOutcome (addition : Addition) (text : String)
    (outcome : Except Failure Answer) : Prop where
  answers_iff : ∀ answer, outcome = .ok answer ↔
    addition.Tells text answer ∨ (WritesHollow text ∧ answer = addition.nothingAdded)
  malformed : ∀ failure, outcome = .error failure → failure.IsMalformed

/-- An answer that nothing was added is out of shape if the text does not tell it. -/
theorem AdditionOutcome.keepsShape_iff (comes : AdditionOutcome addition text outcome) :
    KeepsShape (addition.Tells text) outcome ↔ ¬ WritesHollow text := by
  constructor
  · intro keeps writes
    have answered := (comes.answers_iff addition.nothingAdded).2 (.inr ⟨writes, rfl⟩)
    exact Addition.not_tells_nothingAdded writes ((keeps.answers_iff _).1 answered)
  · intro solid
    refine ⟨fun answer => (comes.answers_iff answer).trans ?_, comes.malformed⟩
    exact or_iff_left fun hollow => solid hollow.1

namespace Addition

/-- The text of an answer with success decides what comes of an addition. -/
theorem isOutcome (adds : way.call = addition.call)
    (answered : way.IsAnswered client task text network wire) :
    AdditionOutcome addition text (way.run client network wire).1 := by
  have isTask : addition.IsTask task := by
    apply isTask_of_ofCall
    rw [← adds]
    exact answered.1
  rw [GroupCall.outcome_of_isAnswered answered]
  refine ⟨fun answer => answer_eq_ok_iff isTask, fun failure failed => ?_⟩
  rcases Result.bind_eq_error_iff.1 failed with undecoded | ⟨data, -, refused⟩
  · exact Task.decode_error undecoded
  · exact answer_error isTask refused

/-- An addition keeps to the shape of its answers exactly if the text does not write a hollow value;
what comes of it is settled for every text. -/
theorem additions_keep_shape_iff (adds : way.call = addition.call)
    (answered : way.IsAnswered client task text network wire) :
    AdditionOutcome addition text (way.run client network wire).1 ∧
      (KeepsShape (addition.Tells text) (way.run client network wire).1 ↔
        ¬ WritesHollow text) :=
  have comes := isOutcome adds answered
  ⟨comes, comes.keepsShape_iff⟩

/-! ### Samples -/

open Operation (anonymousClient)

/-- The addition of an included group. -/
def sampleGroups : Addition := .groups (.text "x") (.items .list [.text "y"])

/-- The addition of a member. -/
def sampleMembers : Addition := .members (.text "x") (.items .list [.text "y"])

private theorem isAnswered_sampleGroups (text : String) :
    (GroupCall.direct sampleGroups.call).IsAnswered anonymousClient
      (.addIncludedGroups "x" ["y"]) text (answering text) .fresh :=
  GroupCall.isAnswered_answering rfl (by decide +kernel) text

private theorem isAnswered_sampleMembers (text : String) :
    (GroupCall.direct sampleMembers.call).IsAnswered anonymousClient (.addMembers "x" ["y"]) text
      (answering text) .fresh :=
  GroupCall.isAnswered_answering rfl (by decide +kernel) text

/-- The text of a list of a single group. -/
def listedText : String := guarded (.list [.object [("id", .text "y")]])

/-- The group that is listed is told as the one that was added. -/
theorem additions_keep_shape_listed :
    (GroupCall.direct sampleGroups.call).call = sampleGroups.call ∧
      (GroupCall.direct sampleGroups.call).IsAnswered anonymousClient
        (.addIncludedGroups "x" ["y"]) listedText (answering listedText) .fresh ∧
      ∃ group, group.id = some "y" ∧
        ((GroupCall.direct sampleGroups.call).run anonymousClient (answering listedText) .fresh).1 =
          .ok (.groups [group]) := by
  have answered := isAnswered_sampleGroups listedText
  have adds : (GroupCall.direct sampleGroups.call).call = sampleGroups.call := rfl
  obtain ⟨comes, -⟩ := additions_keep_shape_iff adds answered
  obtain ⟨group, describes, known⟩ := Lookup.describesGroup_sample "y"
  refine ⟨adds, answered, group, known, ?_⟩
  have exact : (Json.list [.object [("id", .text "y")]]).IsExact := by
    refine .list fun item inside => ?_
    rw [List.mem_singleton.1 inside]
    refine .object (List.nodup_singleton _) fun entry inside => ?_
    rw [List.mem_singleton.1 inside]
    exact .text "y"
  exact (comes.answers_iff _).2 (.inl ⟨[group],
    .list (parse_guarded exact) (.items (.cons describes .nil)), rfl⟩)

/-- The text of an empty object. -/
def emptyText : String := guarded (.object [])

/-- An empty object is taken for the answer that nothing was added, though it does not tell that. -/
theorem empty_taken_as_list :
    (GroupCall.direct sampleMembers.call).IsAnswered anonymousClient (.addMembers "x" ["y"])
        emptyText (answering emptyText) .fresh ∧
      ((GroupCall.direct sampleMembers.call).run anonymousClient (answering emptyText) .fresh).1 =
        .ok (.accounts []) ∧
      ¬ sampleMembers.Tells emptyText (.accounts []) := by
  have answered := isAnswered_sampleMembers emptyText
  have exact : (Json.object []).IsExact := .object .nil fun _ inside => nomatch inside
  have writes : WritesHollow emptyText := ⟨.object [], parse_guarded exact, .object⟩
  have adds : (GroupCall.direct sampleMembers.call).call = sampleMembers.call := rfl
  have comes := isOutcome adds answered
  exact ⟨answered, (comes.answers_iff _).2 (.inr ⟨writes, rfl⟩), not_tells_nothingAdded writes⟩

end Addition

end Rest

end ReviewGroups
