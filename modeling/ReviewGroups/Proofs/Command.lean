/-
Module: ReviewGroups.Proofs.Command
Purpose: What an operation on a single group is told to do, its arguments read as the texts, truth
  values and records that they are, and how that is read back from the parts of a request.
  Operations take arguments of any kind; a command is an operation whose arguments are of the kinds
  that they should have, so that two operations with the same command cannot be told apart by the
  server. Searches are no commands.
Trusted boundary: none
Main exports: Rest.Command, Command.task, Command.settled, Command.exists_requestBody,
  Call.command?, Operation.command?, Operation.intent_of_command?
-/
import ReviewGroups.Proofs.CheckResult
import ReviewGroups.Proofs.GroupOperation
import ReviewGroups.Proofs.RecordBody

namespace ReviewGroups

namespace Value

/-- The text of a value, or none of null. -/
def textOrNull? : Value → Option (Option String)
  | .null => some none
  | value => value.text?.map some

/-- The truth value that a value is. -/
def truth? : Value → Option Bool
  | .bool b => some b
  | _ => none

/-- The texts that a value gives one after the other, if it gives nothing else. -/
def texts? (value : Value) : Option (List String) :=
  match value.elements with
  | .ok values => values.mapM text?
  | .error _ => none

/-- The new options of a group that a value is. -/
def optionsInput? : Value → Option GroupOptionsInput
  | .record (.groupOptionsInput options) => some options
  | _ => none

end Value

namespace Rest

open Http

/-- What can be done with a single group, with arguments of the kinds that they should have. -/
inductive Command where
  | resolve (id : String)
  | create (input : GroupInput)
  | getDetail (id : String)
  | getName (id : String)
  | putName (id name : String)
  | getDescription (id : String)
  | putDescription (id : String) (description : Option String)
  | getOwner (id : String)
  | putOwner (id owner : String)
  | getOptions (id : String)
  | putOptions (id : String) (options : GroupOptionsInput)
  | listMembers (id : String) (recursive : Bool)
  | addMembers (id : String) (members : List String)
  | removeMembers (id : String) (members : List String)
  | listIncludedGroups (id : String)
  | addIncludedGroups (id : String) (groups : List String)
  | removeIncludedGroups (id : String) (groups : List String)
  | index (id : String)
deriving Repr, Inhabited, DecidableEq

/-- The task to describe a group, or to leave it without a description. -/
def Task.describing (id : String) : Option String → Task
  | some description => .putDescription id description
  | none => .deleteDescription id

namespace Command

/-- The identifier of the group that a command concerns; a group to create may lack one. -/
def identifier : Command → String
  | .create input => input.name.getD ""
  | .resolve id | .getDetail id | .getName id | .putName id _ | .getDescription id
  | .putDescription id _ | .getOwner id | .putOwner id _ | .getOptions id | .putOptions id _
  | .listMembers id _ | .addMembers id _ | .removeMembers id _ | .listIncludedGroups id
  | .addIncludedGroups id _ | .removeIncludedGroups id _ | .index id => id

/-- The same command, where an empty description is none. -/
def settled : Command → Command
  | .putDescription id description => .putDescription id (description.filter fun s => !s.isEmpty)
  | command => command

/-- The task that a command comes to. -/
def task : Command → Task
  | .resolve id => .resolve id id
  | .create input => .create (input.name.getD "") (.record (.groupInput input))
  | .getDetail id => .getDetail id
  | .getName id => .getName id
  | .putName id name => .putName id name
  | .getDescription id => .getDescription id
  | .putDescription id description =>
      .describing id (description.filter fun s => !s.isEmpty)
  | .getOwner id => .getOwner id
  | .putOwner id owner => .putOwner id owner
  | .getOptions id => .getOptions id
  | .putOptions id options => .putOptions id (.record (.groupOptionsInput options))
  | .listMembers id recursive => .listMembers id recursive
  | .addMembers id members => .addMembers id members
  | .removeMembers id members => .removeMembers id members
  | .listIncludedGroups id => .listIncludedGroups id
  | .addIncludedGroups id groups => .addIncludedGroups id groups
  | .removeIncludedGroups id groups => .removeIncludedGroups id groups
  | .index id => .index id

/-- A command comes to a task for the group that it concerns. -/
theorem identifier?_task (command : Command) :
    command.task.identifier? = some command.identifier := by
  cases command
  case putDescription id description =>
      change (Task.describing id (description.filter _)).identifier? = some id
      cases description.filter _ <;> rfl
  all_goals rfl

/-- Whether an empty description stands for none makes no difference to the task. -/
theorem task_settled (command : Command) : command.settled.task = command.task := by
  cases command
  case putDescription id description =>
      change Task.describing id ((description.filter _).filter _) = _
      simp only [Option.filter_filter, Bool.and_self]
      rfl
  all_goals rfl

/-- A command sends nothing, or the input of a change. -/
theorem body_task (command : Command) :
    command.task.body = .null ∨
      ∃ record, command.task.body = .record record ∧ record.IsInput := by
  cases command
  case putDescription id description =>
      change (Task.describing id (description.filter _)).body = .null ∨
        ∃ record, (Task.describing id (description.filter _)).body = .record record ∧ _
      cases description.filter _ with
      | none => exact .inl rfl
      | some description => exact .inr ⟨_, rfl, trivial⟩
  case create | putName | putOwner | putOptions | addMembers | removeMembers | addIncludedGroups
    | removeIncludedGroups => exact .inr ⟨_, rfl, trivial⟩
  all_goals exact .inl rfl

/-- The body of a command can be written. -/
theorem exists_requestBody (command : Command) :
    ∃ body, command.task.body.requestBody = .ok body := by
  rcases command.body_task with nothing | ⟨record, is, input⟩
  · rw [nothing]
    exact ⟨none, rfl⟩
  · rw [is, Value.requestBody, input.isExact_body.isFinite, input.isExact_body.isWritable]
    exact ⟨some record.body, rfl⟩

end Command

end Rest

open Rest

/-- What a call is told to do, if its arguments are of the kinds that they should have. -/
def Call.command? : Call → Option Command
  | .getDetail id => return .getDetail (← id.text?)
  | .getName id => return .getName (← id.text?)
  | .putName id name => return .putName (← id.text?) (← name.text?)
  | .getDescription id => return .getDescription (← id.text?)
  | .putDescription id description =>
      return .putDescription (← id.text?) (← description.textOrNull?)
  | .getOwner id => return .getOwner (← id.text?)
  | .putOwner id owner => return .putOwner (← id.text?) (← owner.text?)
  | .getOptions id => return .getOptions (← id.text?)
  | .putOptions id options => return .putOptions (← id.text?) (← options.optionsInput?)
  | .listMembers id recursive => return .listMembers (← id.text?) (← recursive.truth?)
  | .addMembers id members => return .addMembers (← id.text?) (← members.texts?)
  | .removeMembers id members => return .removeMembers (← id.text?) (← members.texts?)
  | .listIncludedGroups id => return .listIncludedGroups (← id.text?)
  | .addIncludedGroups id groups => return .addIncludedGroups (← id.text?) (← groups.texts?)
  | .removeIncludedGroups id groups =>
      return .removeIncludedGroups (← id.text?) (← groups.texts?)
  | .index id => return .index (← id.text?)

namespace Rest

/-- What an operation is told to do, if its arguments are of the kinds that they should have. -/
def Operation.command? : Operation → Option Command
  | .resolve identifier => identifier.text?.map .resolve
  | .create (.record (.groupInput input)) => some (.create input)
  | .create _ => none
  | .perform call => call.command?

/-! ### From arguments to tasks -/

namespace Task

variable {value : Value} {s : String} {texts : List String}

theorem readIdentifier_of_text? (text : value.text? = some s) : readIdentifier value = .ok s := by
  cases value <;> cases text <;> rfl

private theorem text_of_text? (text : value.text? = some s) : Check.text value = .valid s := by
  cases value <;> cases text <;> rfl

/-- Texts pass one by one. -/
theorem eachFrom_of_mapM_text? {values : List Value} (start : Nat)
    (each : values.mapM Value.text? = some texts) :
    Check.eachFrom Check.text start values = .valid texts := by
  induction values generalizing start texts with
  | nil =>
      cases each
      rfl
  | cons value values inductionHypothesis =>
      rw [List.mapM_cons] at each
      obtain ⟨first, text, each⟩ := Option.bind_eq_some_iff.1 each
      obtain ⟨others, rest, each⟩ := Option.bind_eq_some_iff.1 each
      cases each
      rw [Check.eachFrom, text_of_text? text, inductionHypothesis (start + 1) rest]
      rfl

private theorem readField_of_valid {α β : Type} {schema : Schema} {check : Value → Check α}
    {make : β → α}
    {checkPart : Value → Check β} {name : String} {part : β}
    (checks : ∀ entries, check (.dict entries) = make <$> Check.required name checkPart entries)
    (passes : checkPart value = .valid part) :
    readField schema check name value = .ok (make part) := by
  unfold readField
  rw [checks, Check.required, Value.entry?, if_pos rfl]
  simp only [passes]
  rfl

/-- The texts that a value gives are read, if it gives nothing else. -/
theorem readTexts_of_texts? {α : Type} {schema : Schema} {check : Value → Check α}
    {make : List String → α} {name : String}
    (checks : ∀ entries,
      check (.dict entries) = make <$> Check.required name (Check.listOf Check.text) entries)
    (given : value.texts? = some texts) :
    readTexts schema check name value = .ok (make texts) := by
  unfold readTexts
  unfold Value.texts? at given
  split at given
  next values listed =>
    rw [listed]
    exact readField_of_valid checks (eachFrom_of_mapM_text? 0 given)
  next => cases given

/-- A description that is empty is read as none. -/
theorem readDescription_of_textOrNull? {description : Option String}
    (given : value.textOrNull? = some description) :
    readDescription value = .ok (description.filter fun s => !s.isEmpty) := by
  cases value
  case null =>
      cases given
      rfl
  case text s =>
      cases given
      have field : readField .descriptionInput DescriptionInput.check "description" (.text s) =
          .ok ⟨some s⟩ := rfl
      rw [readDescription, field, Option.filter_some]
      change (if (!s.isEmpty) = true then Except.ok (some s) else .ok none) = _
      cases s.isEmpty <;> rfl
  case option o =>
      cases given
      cases o <;> rfl
  all_goals cases given

end Task

/-- A call with arguments of the kinds that they should have comes to the task of its command. -/
theorem Task.ofCall_of_command? {call : Call} {command : Command}
    (told : call.command? = some command) : ofCall call = .ok command.task := by
  cases call
  all_goals
    obtain ⟨id, text, told⟩ := Option.bind_eq_some_iff.1 told
    refine Result.bind_eq_ok_iff.2 ⟨id, readIdentifier_of_text? text, ?_⟩
  case putName | putOwner =>
      obtain ⟨name, text, told⟩ := Option.bind_eq_some_iff.1 told
      cases told
      exact Result.bind_eq_ok_iff.2
        ⟨_, readField_of_valid (fun _ => rfl) (text_of_text? text), rfl⟩
  case addMembers | removeMembers | addIncludedGroups | removeIncludedGroups =>
      obtain ⟨texts, given, told⟩ := Option.bind_eq_some_iff.1 told
      cases told
      exact Result.bind_eq_ok_iff.2 ⟨_, readTexts_of_texts? (fun _ => rfl) given, rfl⟩
  -- An empty description is read as none, which comes to a deletion.
  case putDescription =>
      obtain ⟨description, given, told⟩ := Option.bind_eq_some_iff.1 told
      cases told
      refine Result.bind_eq_ok_iff.2 ⟨_, readDescription_of_textOrNull? given, ?_⟩
      change _ = Except.ok (Task.describing id (description.filter _))
      cases description.filter _ <;> rfl
  case putOptions =>
      obtain ⟨options, given, told⟩ := Option.bind_eq_some_iff.1 told
      cases told
      unfold Value.optionsInput? at given
      split at given <;> cases given
      rfl
  case listMembers =>
      obtain ⟨recursive, given, told⟩ := Option.bind_eq_some_iff.1 told
      cases told
      unfold Value.truth? at given
      split at given <;> cases given
      rfl
  all_goals
    cases told
    rfl

/-- An operation with arguments of the kinds that they should have asks for what its command comes
to. -/
theorem Operation.intent_of_command? {operation : Operation} {command : Command} {task : Task}
    (told : operation.command? = some command) (made : operation.task = .ok task) :
    task.intent = command.task.intent := by
  unfold Operation.command? at told
  split at told
  next identifier =>
    obtain ⟨id, text, rfl⟩ := Option.map_eq_some_iff.1 told
    obtain ⟨read, readAs, rfl⟩ := Result.map_eq_ok_iff.1 made
    cases (Task.readIdentifier_of_text? text).symm.trans readAs
    rfl
  next input =>
    cases told
    change Task.ofCreation (.record (.groupInput input)) = _ at made
    obtain ⟨name, named, rfl⟩ := Task.exists_of_ofCreation made
    have given : input.name = some name := Option.some.inj named
    change _ = (Task.create (input.name.getD "") (.record (.groupInput input))).intent
    rw [given, Option.getD_some]
  next => cases told
  next call =>
    cases made.symm.trans (Task.ofCall_of_command? told)
    rfl

end Rest

end ReviewGroups
