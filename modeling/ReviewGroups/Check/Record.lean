/-
Module: ReviewGroups.Check.Record
Purpose: Checking values as records, field by field, at every depth.
Trusted boundary: none
Main exports: Check.field, Check.required, Check.listOf, Check.tupleOf, Account.check, Group.check,
  ListFilter.check, QueryFilter.check, Schema.check
-/
import ReviewGroups.Check.Scalar

namespace ReviewGroups

/-- The entries of an object, by key. -/
abbrev Entries := List (Value × Value)

namespace Check

variable {α : Type}

/-- A field that may be left out. -/
def field (name : String) (default : α) (check : Value → Check α) (entries : Entries) : Check α :=
  match Value.entry? name entries with
  | none => .valid default
  | some value => (check value).within (.field name)

/-- A field that may be left out or null. -/
def optionalField (name : String) (check : Value → Check α) (entries : Entries) :
    Check (Option α) :=
  field name none (optional check) entries

/-- A field that may be left out or null, and that has a second name.  When both are present the
first one counts, whatever it holds. -/
def aliasedField (first second : String) (check : Value → Check α) (entries : Entries) :
    Check (Option α) :=
  match Value.entry? first entries with
  | some _ => optionalField first check entries
  | none => optionalField second check entries

/-- A field that must be present. -/
def required (name : String) (check : Value → Check α) (entries : Entries) : Check α :=
  match Value.entry? name entries with
  | none => (fault .missing).within (.field name)
  | some value => (check value).within (.field name)

/-- Items one by one, the first of which has the index `start`. -/
def eachFrom (check : Value → Check α) (start : Nat) : List Value → Check (List α)
  | [] => .valid []
  | value :: values =>
      List.cons <$> (check value).within (.index start) <*> eachFrom check (start + 1) values

/-- A collection of items, as a list. -/
def listOf (check : Value → Check α) : Value → Check (List α)
  | .items _ values => eachFrom check 0 values
  | _ => fault .notList

/-- A collection of items, as a tuple. -/
def tupleOf (check : Value → Check α) : Value → Check (List α)
  | .items _ values => eachFrom check 0 values
  | _ => fault .notTuple

end Check

/-- A value as an account. -/
def Account.check : Value → Check Account
  | .record (.account account) => .valid account
  | .dict entries =>
      Account.mk
        <$> Check.aliasedField "_account_id" "account_id" Check.whole entries
        <*> Check.optionalField "name" Check.text entries
        <*> Check.optionalField "email" Check.text entries
        <*> Check.optionalField "username" Check.text entries
  | _ => .fault .notRecord

/-- A value as group options. -/
def GroupOptions.check : Value → Check GroupOptions
  | .record (.groupOptions options) => .valid options
  | .dict entries => GroupOptions.mk <$> Check.optionalField "visible_to_all" Check.truth entries
  | _ => .fault .notRecord

namespace Group

/-- The name of the field that holds included groups. -/
def includesName : String := "includes"

/-- The fields of a group, given the outcome for the included groups. -/
def ofEntries (entries : Entries) (includes : Check (Option (List Group))) : Check Group :=
  Group.mk
    <$> Check.optionalField "id" Check.text entries
    <*> Check.optionalField "name" Check.text entries
    <*> Check.optionalField "url" Check.text entries
    <*> Check.optionalField "options" GroupOptions.check entries
    <*> Check.optionalField "description" Check.text entries
    <*> Check.optionalField "group_id" Check.whole entries
    <*> Check.optionalField "owner" Check.text entries
    <*> Check.optionalField "owner_id" Check.text entries
    <*> Check.optionalField "created_on" Check.text entries
    <*> Check.aliasedField "_more_groups" "more_groups" Check.truth entries
    <*> Check.optionalField "members" (Check.listOf Account.check) entries
    <*> includes

mutual

/-- A value as a group.  Groups may include groups to any depth: a guard that stops at 255 of them
inside one another, with an issue of its own kind, is not part of the check. -/
def check : Value → Check Group
  | .record (.group group) => .valid group
  | .dict entries => ofEntries entries ((checkIncludes entries).within (.field includesName))
  | _ => .fault .notRecord

/-- The included groups among the entries of a group. -/
def checkIncludes : Entries → Check (Option (List Group))
  | [] => .valid none
  | (.text key, value) :: entries =>
      if key = includesName then checkOptionalList value else checkIncludes entries
  | _ :: entries => checkIncludes entries

/-- Null, or a value as a list of groups. -/
def checkOptionalList : Value → Check (Option (List Group))
  | .null => .valid none
  | .items _ values => (checkFrom 0 values).map some
  | _ => .fault .notList

/-- Values one by one as groups, the first of which has the index `start`. -/
def checkFrom (start : Nat) : List Value → Check (List Group)
  | [] => .valid []
  | value :: values =>
      List.cons <$> (check value).within (.index start) <*> checkFrom (start + 1) values

end

/-- The groups of a list are checked one by one, like the items of any other list. -/
theorem checkFrom_eq_eachFrom (start : Nat) (values : List Value) :
    checkFrom start values = Check.eachFrom check start values := by
  induction values generalizing start with
  | nil => rfl
  | cons value values inductionHypothesis =>
      simp [checkFrom, Check.eachFrom, inductionHypothesis]

/-- A list of groups may be null, like any other optional value. -/
theorem checkOptionalList_eq_optional (value : Value) :
    checkOptionalList value = Check.optional (Check.listOf check) value := by
  cases value <;>
    simp [checkOptionalList, Check.optional, Check.listOf, Check.fault, Check.map,
      checkFrom_eq_eachFrom]

/-- The included groups are an optional field like any other. -/
theorem checkIncludes_eq_optionalField (entries : Entries) :
    (checkIncludes entries).within (.field includesName) =
      Check.optionalField includesName (Check.listOf check) entries := by
  induction entries with
  | nil => rfl
  | cons entry entries inductionHypothesis =>
      obtain ⟨key, value⟩ := entry
      cases key with
      | text key =>
          by_cases hit : key = includesName
          · simp [checkIncludes, Check.optionalField, Check.field, Value.entry?, hit,
              checkOptionalList_eq_optional]
          · simpa [checkIncludes, Check.optionalField, Check.field, Value.entry?, hit] using
              inductionHypothesis
      | _ =>
          simpa [checkIncludes, Check.optionalField, Check.field, Value.entry?] using
            inductionHypothesis

end Group

/-- A value as a group to create. -/
def GroupInput.check : Value → Check GroupInput
  | .record (.groupInput input) => .valid input
  | .dict entries =>
      GroupInput.mk
        <$> Check.optionalField "name" Check.text entries
        <*> Check.optionalField "uuid" Check.text entries
        <*> Check.optionalField "description" Check.text entries
        <*> Check.optionalField "visible_to_all" Check.truth entries
        <*> Check.optionalField "owner_id" Check.text entries
        <*> Check.optionalField "members" (Check.listOf Check.text) entries
  | _ => .fault .notRecord

/-- A value as new group options. -/
def GroupOptionsInput.check : Value → Check GroupOptionsInput
  | .record (.groupOptionsInput input) => .valid input
  | .dict entries =>
      GroupOptionsInput.mk <$> Check.optionalField "visible_to_all" Check.truth entries
  | _ => .fault .notRecord

/-- A value as a new name. -/
def NameInput.check : Value → Check NameInput
  | .record (.nameInput input) => .valid input
  | .dict entries => NameInput.mk <$> Check.required "name" Check.text entries
  | _ => .fault .notRecord

/-- A value as a new description. -/
def DescriptionInput.check : Value → Check DescriptionInput
  | .record (.descriptionInput input) => .valid input
  | .dict entries => DescriptionInput.mk <$> Check.optionalField "description" Check.text entries
  | _ => .fault .notRecord

/-- A value as a new owner. -/
def OwnerInput.check : Value → Check OwnerInput
  | .record (.ownerInput input) => .valid input
  | .dict entries => OwnerInput.mk <$> Check.required "owner" Check.text entries
  | _ => .fault .notRecord

/-- A value as a change of members. -/
def MembersInput.check : Value → Check MembersInput
  | .record (.membersInput input) => .valid input
  | .dict entries => MembersInput.mk <$> Check.required "members" (Check.listOf Check.text) entries
  | _ => .fault .notRecord

/-- A value as a change of included groups. -/
def GroupsInput.check : Value → Check GroupsInput
  | .record (.groupsInput input) => .valid input
  | .dict entries => GroupsInput.mk <$> Check.required "groups" (Check.listOf Check.text) entries
  | _ => .fault .notRecord

/-- A value as a list filter. -/
def ListFilter.check : Value → Check ListFilter
  | .record (.listFilter filter) => .valid filter
  | .dict entries =>
      ListFilter.mk
        <$> Check.field "options" [] (Check.tupleOf Check.option) entries
        <*> Check.field "projects" [] (Check.tupleOf Check.text) entries
        <*> Check.field "groups" [] (Check.tupleOf Check.text) entries
        <*> Check.field "visible_to_all" false Check.truth entries
        <*> Check.optionalField "user" Check.text entries
        <*> Check.field "owned" false Check.truth entries
        <*> Check.field "limit" 0 Check.whole entries
        <*> Check.field "start" 0 Check.whole entries
        <*> Check.optionalField "substring" Check.text entries
        <*> Check.optionalField "suggest" Check.text entries
  | _ => .fault .notRecord

/-- A value as a query filter. -/
def QueryFilter.check : Value → Check QueryFilter
  | .record (.queryFilter filter) => .valid filter
  | .dict entries =>
      QueryFilter.mk
        <$> Check.optionalField "query" Check.text entries
        <*> Check.field "limit" 0 Check.whole entries
        <*> Check.field "start" 0 Check.whole entries
        <*> Check.field "options" [] (Check.tupleOf Check.option) entries
  | _ => .fault .notRecord

/-- A value as settings. -/
def Settings.check : Value → Check Settings
  | .record (.settings settings) => .valid settings
  | .dict entries =>
      Settings.mk
        <$> Check.field "url" Settings.default.url Check.text entries
        <*> Check.optionalField "username" Check.text entries
        <*> Check.optionalField "password" Check.text entries
        <*> Check.field "timeout" Settings.default.timeout Check.number entries
  | _ => .fault .notRecord

/-- A value as a record of a schema. -/
def Schema.check (schema : Schema) (value : Value) : Check Record :=
  match schema with
  | .account => (Account.check value).map .account
  | .groupOptions => (GroupOptions.check value).map .groupOptions
  | .groupOptionsInput => (GroupOptionsInput.check value).map .groupOptionsInput
  | .group => (Group.check value).map .group
  | .groupInput => (GroupInput.check value).map .groupInput
  | .nameInput => (NameInput.check value).map .nameInput
  | .descriptionInput => (DescriptionInput.check value).map .descriptionInput
  | .ownerInput => (OwnerInput.check value).map .ownerInput
  | .membersInput => (MembersInput.check value).map .membersInput
  | .groupsInput => (GroupsInput.check value).map .groupsInput
  | .listFilter => (ListFilter.check value).map .listFilter
  | .queryFilter => (QueryFilter.check value).map .queryFilter
  | .settings => (Settings.check value).map .settings

end ReviewGroups
