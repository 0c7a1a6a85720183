/-
Module: ReviewGroups.Proofs.OptionsShape
Purpose: The calls for group options keep to the shape of their answers exactly for the texts that
  do not state something else than a truth value; for those the bare issue is raised. A text stands
  for one of three things: options, misstated options, or something malformed; `OptionsOutcome` has
  one constructor for each. Reading and setting options are one case. Texts may be nested to any
  depth here.
Trusted boundary: none
Main exports: Json.MisstatesOptions, Payload.options_eq_ok_iff, Rest.AsksForOptions,
  Rest.OptionsOutcome, GroupCall.options_keep_shape_iff
-/
import ReviewGroups.Proofs.FilterState
import ReviewGroups.Proofs.GroupCall

namespace ReviewGroups

open Http

/-! ### Options that are stated wrongly -/

namespace Check

/-- A value that is no truth value has a single issue. -/
theorem exists_of_truth_eq_invalid {value : Value} {issues : List Issue}
    (refused : truth value = .invalid issues) : ∃ kind, issues = [⟨[], kind⟩] := by
  -- Wherever a value is refused, that is for a single fault.
  have single {kind : IssueKind} (refused : (fault kind : Check Bool) = .invalid issues) :
      ∃ kind, issues = [⟨[], kind⟩] := by
    cases refused
    exact ⟨kind, rfl⟩
  have whole (n : Int) (refused : truthOfWhole n = .invalid issues) :
      ∃ kind, issues = [⟨[], kind⟩] := by
    unfold truthOfWhole at refused
    split_ifs at refused
    · exact single refused
    · exact single refused
  have word (s : String) (refused : truthOfText s = .invalid issues) :
      ∃ kind, issues = [⟨[], kind⟩] := by
    unfold truthOfText at refused
    dsimp only at refused
    split_ifs at refused
    exact single refused
  unfold truth at refused
  split at refused
  next => cases refused
  next n => exact whole n refused
  next =>
    split at refused
    · exact whole _ refused
    · exact single refused
  next s => exact word s refused
  next o => exact word o.name refused
  next => exact single refused

/-- A field that is no truth value has a single issue, at the field. -/
theorem exists_of_truthField_eq_invalid {name : String} {entries : Entries} {issues : List Issue}
    (refused : optionalField name truth entries = .invalid issues) :
    ∃ kind, issues = [⟨[.field name], kind⟩] := by
  unfold optionalField field at refused
  split at refused
  next => cases refused
  next value found =>
    by_cases null : value = .null
    · rw [null] at refused
      cases refused
    · rw [optional_of_ne_null null] at refused
      cases checked : truth value with
      | valid b =>
          rw [checked] at refused
          cases refused
      | invalid inner =>
          obtain ⟨kind, rfl⟩ := exists_of_truth_eq_invalid checked
          rw [checked] at refused
          cases refused
          exact ⟨kind, rfl⟩

end Check

namespace Json

/-- An object states who sees a group with something else than a truth value. -/
inductive MisstatesOptions : Json → Prop where
  | object {members : Keyed Json} {value : Json}
      (stated : Keyed.get? "visible_to_all" members = some value) (notNull : value ≠ .null)
      (noTruth : ∀ b, ¬ value.IsTruth b) : MisstatesOptions (.object members)

theorem DescribesOptions.ne_null {data : Json} {options : GroupOptions}
    (describes : data.DescribesOptions options) : data ≠ .null := by
  rintro rfl
  cases describes

theorem MisstatesOptions.ne_null {data : Json} (misstates : data.MisstatesOptions) :
    data ≠ .null := by
  rintro rfl
  cases misstates

/-- An object misstates options exactly if it does not describe any. -/
theorem misstatesOptions_iff {members : Keyed Json} :
    MisstatesOptions (.object members) ↔
      ∀ options, ¬ DescribesOptions (.object members) options := by
  constructor
  · rintro ⟨stated, notNull, noTruth⟩ options ⟨visible⟩
    rw [stated] at visible
    -- Which part is read does not matter: nothing at all is.
    generalize options.visibleToAll = part at visible
    cases visible with
    | null => exact notNull rfl
    | given _ isTruth => exact noTruth _ isTruth
  · intro none
    have reads (part : Option Bool)
        (visible : IsOptional IsTruth (Keyed.get? "visible_to_all" members) part) : False :=
      none ⟨part⟩ (.object visible)
    cases stated : Keyed.get? "visible_to_all" members with
    | none =>
        rw [stated] at reads
        exact (reads _ .missing).elim
    | some value =>
        rw [stated] at reads
        refine .object stated ?_ fun b isTruth => ?_
        · rintro rfl
          exact reads _ .null
        · by_cases null : value = .null
          · subst null
            exact reads _ .null
          · exact reads _ (.given null isTruth)

end Json

/-- The failure for options that state who sees a group with something else than a truth value. -/
def Failure.misstated (kind : IssueKind) : Failure :=
  .invalid .groupOptions [⟨[.field "visible_to_all"], kind⟩]

namespace Payload

variable {data : Json}

/-- A value is taken as options exactly if it describes them. -/
theorem options_eq_ok_iff {checked : GroupOptions} :
    options data = .ok checked ↔ data.DescribesOptions checked := by
  rw [← GroupOptions.check_ofJson_eq_valid_iff]
  unfold options
  cases data with
  | object members => exact Failure.ofCheck_eq_ok_iff
  | _ =>
      constructor
      · intro taken
        cases taken
      · intro passed
        cases passed

/-- Of options that are misstated the issue is raised as it is. -/
theorem options_of_misstates (misstates : data.MisstatesOptions) :
    ∃ kind, options data = .error (.misstated kind) := by
  cases misstates with
  | @object members value stated notNull noTruth =>
      have none := Json.misstatesOptions_iff.1 (.object stated notNull noTruth)
      have checked : GroupOptions.check (.ofJson (.object members)) =
          GroupOptions.mk <$>
            Check.optionalField "visible_to_all" Check.truth (Value.ofJsonMembers members) :=
        rfl
      unfold options
      cases field : Check.optionalField "visible_to_all" Check.truth
          (Value.ofJsonMembers members) with
      | valid part =>
          rw [field] at checked
          exact absurd (GroupOptions.check_ofJson_eq_valid_iff.1 checked) (none _)
      | invalid issues =>
          obtain ⟨kind, rfl⟩ := Check.exists_of_truthField_eq_invalid field
          refine ⟨kind, ?_⟩
          rw [field] at checked
          rw [checked]
          rfl

private theorem options_error {failure : Failure} (stated : ¬ data.MisstatesOptions)
    (refused : options data = .error failure) : failure.IsMalformed := by
  cases data with
  | object members =>
      rw [Json.misstatesOptions_iff, not_forall] at stated
      obtain ⟨found, describes⟩ := stated
      rw [options_eq_ok_iff.2 (not_not.1 describes)] at refused
      cases refused
  | _ =>
      cases refused
      rfl

end Payload

namespace Rest

/-- The calls that ask for group options, or put some in place. -/
inductive AsksForOptions : Call → Prop where
  | get (id : Value) : AsksForOptions (.getOptions id)
  | put (id options : Value) : AsksForOptions (.putOptions id options)

variable {client : Client} {way : GroupCall} {task : Task} {text : String} {network : Network}
  {wire : Wire}

/-- The task of a call for options looks at its answer, and answers the options that are read. -/
theorem AsksForOptions.answer_eq (asks : AsksForOptions way.call)
    (made : Task.ofCall way.call = .ok task) :
    task.method ≠ .delete ∧ task.answer = fun data => (Payload.options data).map .options := by
  generalize way.call = call at asks made
  cases asks with
  | get id =>
      obtain ⟨id, -, made⟩ := Result.bind_eq_ok_iff.1 made
      cases made
      exact ⟨by simp [Task.method], rfl⟩
  | put id options =>
      obtain ⟨id, -, made⟩ := Result.bind_eq_ok_iff.1 made
      cases made
      exact ⟨by simp [Task.method], rfl⟩

/-- A text tells a caller options: behind the guard it writes an object that describes them. -/
def TellsOptions (text : String) (answer : Answer) : Prop :=
  ∃ data options, Json.parse (dropGuard text) = .ok data ∧ data.DescribesOptions options ∧
    answer = .options options

/-- A text misstates options: behind the guard it writes an object that does. -/
def MisstatesOptions (text : String) : Prop :=
  ∃ data, Json.parse (dropGuard text) = .ok data ∧ data.MisstatesOptions

/-- What comes of a call for options that is answered with a text: the options that the text tells,
the bare issue where it misstates them, and otherwise the report that the answer is malformed. -/
structure OptionsOutcome (text : String) (outcome : Except Failure Answer) : Prop where
  answers_iff : ∀ answer, outcome = .ok answer ↔ TellsOptions text answer
  misstated : MisstatesOptions text → ∃ kind, outcome = .error (.misstated kind)
  malformed : ¬ MisstatesOptions text → ∀ failure, outcome = .error failure → failure.IsMalformed

/-- The text of an answer with success decides what comes of a call for options. -/
theorem GroupCall.isOptionsOutcome (asks : AsksForOptions way.call)
    (answered : way.IsAnswered client task text network wire) :
    OptionsOutcome text (way.run client network wire).1 := by
  obtain ⟨looked, take⟩ := asks.answer_eq answered.1
  rw [outcome_of_isAnswered answered, take]
  have decode_iff {data : Json} (notNull : data ≠ .null) :
      task.decode text = .ok data ↔ Json.parse (dropGuard text) = .ok data :=
    Task.decode_eq_ok_iff looked notNull
  constructor
  case answers_iff =>
      intro answer
      rw [Result.bind_eq_ok_iff]
      constructor
      · rintro ⟨data, decoded, taken⟩
        obtain ⟨options, read, rfl⟩ := Result.map_eq_ok_iff.1 taken
        have describes := Payload.options_eq_ok_iff.1 read
        exact ⟨data, options, (decode_iff describes.ne_null).1 decoded, describes, rfl⟩
      · rintro ⟨data, options, parsed, describes, rfl⟩
        exact ⟨data, (decode_iff describes.ne_null).2 parsed,
          Result.map_eq_ok_iff.2 ⟨options, Payload.options_eq_ok_iff.2 describes, rfl⟩⟩
  case misstated =>
      rintro ⟨data, parsed, misstates⟩
      obtain ⟨kind, refused⟩ := Payload.options_of_misstates misstates
      have decoded := (decode_iff misstates.ne_null).2 parsed
      exact ⟨kind,
        Result.bind_eq_error_iff.2 (.inr ⟨data, decoded, Result.map_eq_error_iff.2 refused⟩)⟩
  case malformed =>
      intro stated failure failed
      rcases Result.bind_eq_error_iff.1 failed with undecoded | ⟨data, decoded, refused⟩
      · exact Task.decode_error undecoded
      · refine Payload.options_error ?_ (Result.map_eq_error_iff.1 refused)
        intro misstates
        exact stated ⟨data, (decode_iff misstates.ne_null).1 decoded, misstates⟩

/-- What is raised bare is not reported as malformed. -/
theorem OptionsOutcome.keepsShape_iff {outcome : Except Failure Answer}
    (comes : OptionsOutcome text outcome) :
    KeepsShape (TellsOptions text) outcome ↔ ¬ MisstatesOptions text := by
  constructor
  · intro keeps misstates
    obtain ⟨kind, raised⟩ := comes.misstated misstates
    exact keeps.malformed _ raised
  · exact fun stated => ⟨comes.answers_iff, comes.malformed stated⟩

/-- A call for options keeps to the shape of its answers exactly if the text does not misstate any;
what comes of it is settled for every text. -/
theorem GroupCall.options_keep_shape_iff (asks : AsksForOptions way.call)
    (answered : way.IsAnswered client task text network wire) :
    OptionsOutcome text (way.run client network wire).1 ∧
      (KeepsShape (TellsOptions text) (way.run client network wire).1 ↔ ¬ MisstatesOptions text) :=
  have comes := isOptionsOutcome asks answered
  ⟨comes, comes.keepsShape_iff⟩

/-! ### Samples -/

open Operation (anonymousClient)

/-- The call for the options of a group. -/
def sampleGetOptions : GroupCall := .direct (.getOptions (.text "x"))

private theorem isAnswered_sampleGetOptions (text : String) :
    sampleGetOptions.IsAnswered anonymousClient (.getOptions "x") text (answering text) .fresh :=
  GroupCall.isAnswered_answering rfl (by decide +kernel) text

/-- The text of an object that states who sees a group. -/
def statedOptions (value : Json) : String := guarded (.object [("visible_to_all", value)])

private theorem parse_statedOptions {value : Json} (exact : value.IsExact) :
    Json.parse (dropGuard (statedOptions value)) = .ok (.object [("visible_to_all", value)]) := by
  refine parse_guarded (.object (List.nodup_singleton _) ?_)
  intro entry inside
  rw [List.mem_singleton.1 inside]
  exact exact

/-- A group that all see is told as that. -/
theorem options_keep_shape_true :
    AsksForOptions sampleGetOptions.call ∧
      sampleGetOptions.IsAnswered anonymousClient (.getOptions "x") (statedOptions (.bool true))
        (answering (statedOptions (.bool true))) .fresh ∧
      (sampleGetOptions.run anonymousClient (answering (statedOptions (.bool true))) .fresh).1 =
        .ok (.options ⟨some true⟩) := by
  have asks : AsksForOptions sampleGetOptions.call := .get _
  have answered := isAnswered_sampleGetOptions (statedOptions (.bool true))
  refine ⟨asks, answered, ?_⟩
  obtain ⟨comes, -⟩ := GroupCall.options_keep_shape_iff asks answered
  exact (comes.answers_iff _).2 ⟨_, ⟨some true⟩, parse_statedOptions (.bool true),
    .object (.given Json.noConfusion (.bool true)), rfl⟩

/-- For a group that all may see the bare issue is raised, and that is not the report of a malformed
answer. -/
theorem options_raised_bare :
    sampleGetOptions.IsAnswered anonymousClient (.getOptions "x") (statedOptions (.text "maybe"))
        (answering (statedOptions (.text "maybe"))) .fresh ∧
      (sampleGetOptions.run anonymousClient (answering (statedOptions (.text "maybe"))) .fresh).1 =
        .error (.misstated .notReadAsTruth) ∧
      ¬ (Failure.misstated .notReadAsTruth).IsMalformed := by
  have answered := isAnswered_sampleGetOptions (statedOptions (.text "maybe"))
  refine ⟨answered, ?_, id⟩
  have decoded : (Task.getOptions "x").decode (statedOptions (.text "maybe")) =
      .ok (.object [("visible_to_all", .text "maybe")]) := by
    have parsed := parse_statedOptions (.text "maybe")
    exact (Task.decode_eq_ok_iff (by decide) Json.noConfusion).2 parsed
  rw [GroupCall.outcome_of_isAnswered answered, decoded]
  rfl

end Rest

end ReviewGroups
