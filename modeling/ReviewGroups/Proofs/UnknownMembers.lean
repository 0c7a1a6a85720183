/-
Module: ReviewGroups.Proofs.UnknownMembers
Purpose: Members of objects that have no meaning here: whatever they are, and in whatever order the
  members come, at every depth, an answer of the server is taken in the same way. An answer varies
  by single edits (`Edit`), in an object or in a part of one, and `Varies` is their closure. What a
  check sees of a value is a shape, edits keep shapes, and equal shapes are checked alike: the same
  record, or issues at the same places.
Trusted boundary: none
Main exports: Shape, Json.Edit, Json.Varies, Shape.Same, Json.Edit.same, Json.Varies.same,
  Rest.Intake, Intake.run_of_isAnswered, Intake.run_of_varies
-/
import Mathlib.Logic.Relation
import ReviewGroups.Proofs.GroupOperation
import ReviewGroups.Proofs.KeyedOrder
import ReviewGroups.Proofs.TaskRun
import ReviewGroups.Proofs.WrittenJson

namespace ReviewGroups

/-! ### Shapes of payloads -/

/-- What a JSON value is taken for. -/
inductive Shape where
  | account
  | options
  | group
  | accounts
  | groups
  | groupMap
deriving Repr, Inhabited, DecidableEq

namespace Shape

/-- Objects that are taken for records have members without meaning; lists have no members, and in a
map every name means something. -/
def isRecord : Shape → Bool
  | .account | .options | .group => true
  | .accounts | .groups | .groupMap => false

/-- The names of the members of a record that mean something: those of its fields, and for some
fields a second one. -/
def names : Shape → List String
  | .account => ["_account_id", "account_id", "name", "email", "username"]
  | .options => ["visible_to_all"]
  | .group =>
      ["id", "name", "url", "options", "description", "group_id", "owner", "owner_id",
        "created_on", "_more_groups", "more_groups", "members", "includes"]
  | .accounts | .groups | .groupMap => []

/-- What the member under a name is taken for, if it is more than a single value. -/
def part? : Shape → String → Option Shape
  | .group, "options" => some .options
  | .group, "members" => some .accounts
  | .group, "includes" => some .groups
  | .groupMap, _ => some .group
  | _, _ => none

/-- What the items of a list are taken for. -/
def item? : Shape → Option Shape
  | .accounts => some .account
  | .groups => some .group
  | _ => none

end Shape

namespace Json

/-- One change of what means nothing: another order of the members of a record, other members with
unknown names in place of some, which may be none on either side, or such a change inside a part or
inside an item. -/
inductive Edit : Shape → Json → Json → Prop where
  | reordered {shape : Shape} {members others : Keyed Json}
      (isRecord : shape.isRecord = true) (distinct : (Keyed.keys members).Nodup)
      (permuted : members.Perm others) : Edit shape (.object members) (.object others)
  | unknown {shape : Shape} {before old new after : Keyed Json}
      (isRecord : shape.isRecord = true) (oldUnknown : ∀ member ∈ old, member.1 ∉ shape.names)
      (newUnknown : ∀ member ∈ new, member.1 ∉ shape.names) :
      Edit shape (.object (before ++ old ++ after)) (.object (before ++ new ++ after))
  | part {shape inner : Shape} {name : String} {before after : Keyed Json} {old new : Json}
      (isPart : shape.part? name = some inner) (edited : Edit inner old new) :
      Edit shape (.object (before ++ (name, old) :: after))
        (.object (before ++ (name, new) :: after))
  | item {shape inner : Shape} {before after : List Json} {old new : Json}
      (isItem : shape.item? = some inner) (edited : Edit inner old new) :
      Edit shape (.list (before ++ old :: after)) (.list (before ++ new :: after))

/-- Any number of such changes. -/
def Varies (shape : Shape) : Json → Json → Prop :=
  Relation.ReflTransGen (Edit shape)

end Json

/-! ### What is seen of a value -/

namespace Check

variable {α : Type} {check : Value → Check α} {name : String} {default : α}
  {members others : Keyed Json}

/-- What a check makes of a value, and the kind of the value. -/
def look (check : Value → Check α) (data : Json) : String × Check α :=
  (data.kindName, check (.ofJson data))

private theorem kindName_eq_null_iff {data : Json} : data.kindName = "NoneType" ↔ data = .null := by
  cases data <;> simp [Json.kindName]

private theorem optional_of_look {one two : Json} (same : look check one = look check two) :
    optional check (.ofJson one) = optional check (.ofJson two) := by
  obtain ⟨kind, checked⟩ := Prod.mk.inj same
  by_cases null : one = .null
  · have nullToo : two = .null := by
      rw [← kindName_eq_null_iff, ← kind, null]
      rfl
    rw [null, nullToo]
  · have notNull : two ≠ .null := by
      rwa [ne_eq, ← kindName_eq_null_iff, ← kind, kindName_eq_null_iff]
    rw [optional_of_ne_null (mt Value.ofJson_eq_null_iff.1 null),
      optional_of_ne_null (mt Value.ofJson_eq_null_iff.1 notNull), checked]

/-- A field is the same where its members look the same to its check. -/
theorem optionalField_of_same
    (same : (Keyed.get? name members).map (fun data => optional check (.ofJson data)) =
      (Keyed.get? name others).map fun data => optional check (.ofJson data)) :
    optionalField name check (Value.ofJsonMembers members) =
      optionalField name check (Value.ofJsonMembers others) := by
  have seen (members : Keyed Json) :
      optionalField name check (Value.ofJsonMembers members) =
        match (Keyed.get? name members).map fun data => optional check (.ofJson data) with
        | none => .valid none
        | some checked => checked.within (.field name) := by
    rw [optionalField, field, Value.entry?_ofJsonMembers]
    cases Keyed.get? name members <;> rfl
  rw [seen, seen, same]

private theorem aliasedField_of_same {first second : String}
    (same : Keyed.get? first members = Keyed.get? first others)
    (sameToo : Keyed.get? second members = Keyed.get? second others) :
    aliasedField first second check (Value.ofJsonMembers members) =
      aliasedField first second check (Value.ofJsonMembers others) := by
  have atFirst : optionalField first check (Value.ofJsonMembers members) =
      optionalField first check (Value.ofJsonMembers others) := optionalField_of_same (by rw [same])
  have atSecond : optionalField second check (Value.ofJsonMembers members) =
      optionalField second check (Value.ofJsonMembers others) :=
    optionalField_of_same (by rw [sameToo])
  unfold aliasedField
  rw [Value.entry?_ofJsonMembers, Value.entry?_ofJsonMembers, same, atFirst, atSecond]

/-- Items that are checked with the same outcomes come to the same list. -/
theorem eachFrom_of_same {items others : List Json} {start : Nat}
    (same : items.map (look check) = others.map (look check)) :
    eachFrom check start (Value.ofJsonItems items) =
      eachFrom check start (Value.ofJsonItems others) := by
  induction items generalizing others start with
  | nil =>
      cases others with
      | nil => rfl
      | cons other others => cases same
  | cons item items inductionHypothesis =>
      cases others with
      | nil => cases same
      | cons other others =>
          obtain ⟨first, rest⟩ := List.cons.inj same
          obtain ⟨-, checked⟩ := Prod.mk.inj first
          rw [Value.ofJsonItems, Value.ofJsonItems, eachFrom, eachFrom, checked,
            inductionHypothesis rest]

end Check

namespace Shape

/-- Two lists have items that look the same to a check. -/
def SameItems {α : Type} (check : Value → Check α) (one two : Json) : Prop :=
  one = two ∨ ∃ items others, one = .list items ∧ two = .list others ∧
    items.map (Check.look check) = others.map (Check.look check)

/-- Two maps have the same names, in the same order, and under them values that look the same to a
check. -/
def SameUnderNames {α : Type} (check : Value → Check α) (one two : Json) : Prop :=
  one = two ∨ ∃ members others, one = .object members ∧ two = .object others ∧
    members.map (fun member => (member.1, Check.look check member.2)) =
      others.map fun member => (member.1, Check.look check member.2)

/-- Two values are the same to whoever takes them for a shape. -/
def Same : Shape → Json → Json → Prop
  | .account, one, two => Check.look Account.check one = Check.look Account.check two
  | .options, one, two => Check.look GroupOptions.check one = Check.look GroupOptions.check two
  | .group, one, two => Check.look Group.check one = Check.look Group.check two
  | .accounts, one, two => SameItems Account.check one two
  | .groups, one, two => SameItems Group.check one two
  | .groupMap, one, two => SameUnderNames Group.check one two

variable {shape : Shape} {one two three : Json} {members others : Keyed Json}

/-- Lists with items that look the same to a check look the same to the check of lists. -/
theorem SameItems.look {α : Type} {check : Value → Check α} (same : SameItems check one two) :
    Check.look (Check.listOf check) one = Check.look (Check.listOf check) two := by
  rcases same with rfl | ⟨items, others, rfl, rfl, alike⟩
  · rfl
  · exact Prod.ext rfl (Check.eachFrom_of_same alike)

/-- What is the same to one is the same to another. -/
theorem SameItems.trans {α : Type} {check : Value → Check α} (first : SameItems check one two)
    (second : SameItems check two three) : SameItems check one three := by
  rcases first with rfl | ⟨items, others, rfl, rfl, alike⟩
  · exact second
  · rcases second with rfl | ⟨others, last, same, rfl, alikeToo⟩
    · exact .inr ⟨items, others, rfl, rfl, alike⟩
    · cases same
      exact .inr ⟨items, last, rfl, rfl, alike.trans alikeToo⟩

/-- Maps likewise. -/
theorem SameUnderNames.trans {α : Type} {check : Value → Check α}
    (first : SameUnderNames check one two) (second : SameUnderNames check two three) :
    SameUnderNames check one three := by
  rcases first with rfl | ⟨members, others, rfl, rfl, alike⟩
  · exact second
  · rcases second with rfl | ⟨others, last, same, rfl, alikeToo⟩
    · exact .inr ⟨members, others, rfl, rfl, alike⟩
    · cases same
      exact .inr ⟨members, last, rfl, rfl, alike.trans alikeToo⟩

theorem Same.refl (shape : Shape) (data : Json) : shape.Same data data := by
  cases shape with
  | accounts | groups | groupMap => exact .inl rfl
  | _ => rfl

/-- Sameness goes from one value to the next. -/
theorem Same.trans (first : shape.Same one two) (second : shape.Same two three) :
    shape.Same one three := by
  cases shape with
  | accounts | groups => exact SameItems.trans first second
  | groupMap => exact SameUnderNames.trans first second
  | _ => exact Eq.trans first second

/-! ### Records -/

/-- Under every name that means something, two objects have the same member, or parts that are the
same to whoever takes them for what they are there. -/
def SameMembers (shape : Shape) (members others : Keyed Json) : Prop :=
  ∀ name ∈ shape.names,
    Keyed.get? name members = Keyed.get? name others ∨
      ∃ inner old new, shape.part? name = some inner ∧ Keyed.get? name members = some old ∧
        Keyed.get? name others = some new ∧ inner.Same old new

/-- A member that is no part is the same. -/
theorem SameMembers.single (same : SameMembers shape members others) {name : String}
    (known : name ∈ shape.names) (single : shape.part? name = none) :
    Keyed.get? name members = Keyed.get? name others := by
  rcases same name known with equal | ⟨inner, old, new, isPart, -⟩
  · exact equal
  · rw [single] at isPart
    cases isPart

/-- A field that is no part has the same outcome. -/
theorem SameMembers.field (same : SameMembers shape members others) {name : String}
    (known : name ∈ shape.names) (single : shape.part? name = none) {α : Type}
    (check : Value → Check α) :
    Check.optionalField name check (Value.ofJsonMembers members) =
      Check.optionalField name check (Value.ofJsonMembers others) :=
  Check.optionalField_of_same (by rw [same.single known single])

/-- A part has the same outcome, if it does so when it is taken for what it is. -/
theorem SameMembers.partField (same : SameMembers shape members others) {name : String}
    (known : name ∈ shape.names) {inner : Shape} (isPart : shape.part? name = some inner) {α : Type}
    {check : Value → Check α}
    (looks : ∀ old new, inner.Same old new → Check.look check old = Check.look check new) :
    Check.optionalField name check (Value.ofJsonMembers members) =
      Check.optionalField name check (Value.ofJsonMembers others) := by
  apply Check.optionalField_of_same
  rcases same name known with equal | ⟨other, old, new, isOther, there, thereToo, alike⟩
  · rw [equal]
  · obtain rfl : inner = other := Option.some.inj (isPart.symm.trans isOther)
    rw [there, thereToo, Option.map_some, Option.map_some,
      Check.optional_of_look (looks old new alike)]

/-- Records whose members are the same are the same. -/
theorem same_of_sameMembers (isRecord : shape.isRecord = true)
    (same : SameMembers shape members others) : shape.Same (.object members) (.object others) := by
  cases shape with
  | account =>
      refine Prod.ext rfl ?_
      change Account.mk <$> _ <*> _ <*> _ <*> _ = Account.mk <$> _ <*> _ <*> _ <*> _
      rw [Check.aliasedField_of_same (same.single (by decide) rfl) (same.single (by decide) rfl),
        same.field (by decide) rfl, same.field (by decide) rfl, same.field (by decide) rfl]
  | options =>
      refine Prod.ext rfl ?_
      change GroupOptions.mk <$> _ = GroupOptions.mk <$> _
      rw [same.field (by decide) rfl]
  | group =>
      refine Prod.ext rfl ?_
      change Group.ofEntries _ _ = Group.ofEntries _ _
      have options :
          Check.optionalField "options" GroupOptions.check (Value.ofJsonMembers members) =
            Check.optionalField "options" GroupOptions.check (Value.ofJsonMembers others) :=
        same.partField (by decide) rfl fun _ _ (alike : Shape.options.Same _ _) => alike
      have accounts :
          Check.optionalField "members" (Check.listOf Account.check)
              (Value.ofJsonMembers members) =
            Check.optionalField "members" (Check.listOf Account.check)
              (Value.ofJsonMembers others) :=
        same.partField (by decide) rfl fun _ _ (alike : Shape.accounts.Same _ _) =>
          SameItems.look alike
      have includes :
          Check.optionalField Group.includesName (Check.listOf Group.check)
              (Value.ofJsonMembers members) =
            Check.optionalField Group.includesName (Check.listOf Group.check)
              (Value.ofJsonMembers others) :=
        same.partField (by decide) rfl fun _ _ (alike : Shape.groups.Same _ _) =>
          SameItems.look alike
      rw [Group.checkIncludes_eq_optionalField, Group.checkIncludes_eq_optionalField, includes]
      unfold Group.ofEntries
      rw [same.field (by decide) rfl, same.field (by decide) rfl, same.field (by decide) rfl,
        options, same.field (by decide) rfl, same.field (by decide) rfl,
        same.field (by decide) rfl, same.field (by decide) rfl, same.field (by decide) rfl,
        Check.aliasedField_of_same (same.single (by decide) rfl) (same.single (by decide) rfl),
        accounts]
  | _ => cases isRecord

end Shape

/-! ### Changes without meaning -/

namespace Json

variable {shape : Shape} {one two : Json}

private theorem get?_of_unknown {names : List String} {name : String} (known : name ∈ names)
    {members : Keyed Json} (unknown : ∀ member ∈ members, member.1 ∉ names) :
    Keyed.get? name members = none := by
  refine Keyed.get?_eq_none_of_not_mem fun present => ?_
  obtain ⟨member, there, rfl⟩ := List.mem_map.1 present
  exact unknown member there known

/-- Two objects that differ in one part, which is the same to whoever takes it for what it is, have
the same members. -/
theorem sameMembers_of_part {inner : Shape} {key : String} {before after : Keyed Json}
    {old new : Json} (isPart : shape.part? key = some inner) (same : inner.Same old new) :
    Shape.SameMembers shape (before ++ (key, old) :: after) (before ++ (key, new) :: after) := by
  intro name known
  rw [Keyed.get?_append, Keyed.get?_append]
  cases Keyed.get? name before with
  | some earlier =>
      -- A member of that name that comes before hides the part on either side.
      exact .inl rfl
  | none =>
      by_cases hit : key = name
      · subst hit
        exact .inr ⟨inner, old, new, isPart, by simp [Keyed.get?], by simp [Keyed.get?], same⟩
      · left
        simp [Keyed.get?, hit]

private theorem sameItems_of_item {α : Type} {check : Value → Check α} {before after : List Json}
    {old new : Json} (same : Check.look check old = Check.look check new) :
    Shape.SameItems check (.list (before ++ old :: after)) (.list (before ++ new :: after)) := by
  refine .inr ⟨_, _, rfl, rfl, ?_⟩
  rw [List.map_append, List.map_append, List.map_cons, List.map_cons, same]

/-- One change without meaning leaves a value the same to whoever takes it for the shape. -/
theorem Edit.same (edited : Edit shape one two) : shape.Same one two := by
  induction edited with
  | reordered isRecord distinct permuted =>
      apply Shape.same_of_sameMembers isRecord
      intro name known
      exact .inl (Keyed.get?_of_perm distinct permuted name)
  | unknown isRecord oldUnknown newUnknown =>
      apply Shape.same_of_sameMembers isRecord
      intro name known
      left
      rw [Keyed.get?_append, Keyed.get?_append, Keyed.get?_append, Keyed.get?_append,
        get?_of_unknown known oldUnknown, get?_of_unknown known newUnknown]
  | @part shape inner key before after old new isPart edited inductionHypothesis =>
      cases shape with
      | group =>
          exact Shape.same_of_sameMembers rfl (sameMembers_of_part isPart inductionHypothesis)
      | groupMap =>
          -- In a map the names count, and all of them are the same as before.
          cases isPart
          refine .inr ⟨_, _, rfl, rfl, ?_⟩
          rw [List.map_append, List.map_append, List.map_cons, List.map_cons,
            show Check.look Group.check old = Check.look Group.check new from inductionHypothesis]
      | _ => cases isPart
  | @item shape inner before after old new isItem edited inductionHypothesis =>
      cases shape with
      | accounts | groups =>
          cases isItem
          exact sameItems_of_item inductionHypothesis
      | _ => cases isItem

/-- Any number of changes without meaning do so. -/
theorem Varies.same (varies : Varies shape one two) : shape.Same one two := by
  induction varies with
  | refl => exact .refl shape _
  | tail _ last inductionHypothesis => exact inductionHypothesis.trans last.same

end Json

/-! ### What is taken of an answer -/

namespace Payload

variable {one two : Json}

private theorem exists_object {data : Json} (object : data.kindName = "dict") :
    ∃ members, data = .object members := by
  cases data with
  | object members => exact ⟨members, rfl⟩
  | _ => simp [Json.kindName] at object

/-- Whether a group is taken is decided by how the value looks. -/
theorem group_of_look (same : Check.look Group.check one = Check.look Group.check two) :
    group one = group two := by
  obtain ⟨kind, checked⟩ := Prod.mk.inj same
  by_cases object : one.kindName = "dict"
  · obtain ⟨members, rfl⟩ := exists_object object
    obtain ⟨others, rfl⟩ := exists_object (kind ▸ object)
    unfold group
    dsimp only
    rw [checked]
  · have refused (data : Json) (other : data.kindName ≠ "dict") : group data =
        .error (.ofError (.malformed s!"Expected a group object, got {data.kindName}")) := by
      cases data with
      | object members => exact absurd rfl other
      | _ => rfl
    rw [refused one object, refused two (kind ▸ object), kind]

private theorem options_of_look
    (same : Check.look GroupOptions.check one = Check.look GroupOptions.check two) :
    options one = options two := by
  have factors (data : Json) : options data =
      if data.kindName = "dict" then
        Failure.ofCheck .groupOptions (GroupOptions.check (.ofJson data))
      else .error (.ofError (.malformed s!"Expected group options, got {data.kindName}")) := by
    cases data <;> rfl
  obtain ⟨kind, checked⟩ := Prod.mk.inj same
  rw [factors, factors, kind, checked]

private theorem account_of_look
    (same : Check.look Account.check one = Check.look Account.check two) :
    account one = account two := by
  obtain ⟨-, checked⟩ := Prod.mk.inj same
  rw [account, account, checked]

/-- Items that look the same are taken to the same list. -/
theorem mapM_of_look {α : Type} {check : Value → Check α} {take : Json → Except Failure α}
    (decided : ∀ one two, Check.look check one = Check.look check two → take one = take two)
    {items others : List Json}
    (same : items.map (Check.look check) = others.map (Check.look check)) :
    items.mapM take = others.mapM take := by
  induction items generalizing others with
  | nil =>
      cases others with
      | nil => rfl
      | cons other others => cases same
  | cons item items inductionHypothesis =>
      cases others with
      | nil => cases same
      | cons other others =>
          obtain ⟨first, rest⟩ := List.cons.inj same
          rw [List.mapM_cons, List.mapM_cons, decided item other first, inductionHypothesis rest]

private theorem groups_of_sameItems (same : Shape.SameItems Group.check one two) :
    groups one = groups two := by
  rcases same with rfl | ⟨items, others, rfl, rfl, alike⟩
  · rfl
  · change groupList items = groupList others
    rw [groupList_eq_mapM, groupList_eq_mapM]
    exact mapM_of_look (fun _ _ => group_of_look) alike

private theorem accounts_of_sameItems (same : Shape.SameItems Account.check one two) :
    accounts one = accounts two := by
  rcases same with rfl | ⟨items, others, rfl, rfl, alike⟩
  · rfl
  · change accountList items = accountList others
    rw [accountList_eq_mapM, accountList_eq_mapM]
    exact mapM_of_look (fun _ _ => account_of_look) alike

private theorem sameItems_additions {α : Type} {check : Value → Check α}
    (same : Shape.SameItems check one two) :
    Shape.SameItems check (additions one) (additions two) := by
  rcases same with rfl | ⟨items, others, rfl, rfl, alike⟩
  · exact .inl rfl
  · have asTheyAre (items : List Json) : additions (.list items) = .list items := by
      cases items <;> rfl
    rw [asTheyAre, asTheyAre]
    exact .inr ⟨items, others, rfl, rfl, alike⟩

/-- Maps that are the same are taken in the same way. -/
theorem groupMap_of_sameUnderNames (same : Shape.SameUnderNames Group.check one two) :
    groupMap one = groupMap two := by
  rcases same with rfl | ⟨members, others, rfl, rfl, alike⟩
  · rfl
  · change groupMembers members = groupMembers others
    induction members generalizing others with
    | nil =>
        cases others with
        | nil => rfl
        | cons other others => cases alike
    | cons member members inductionHypothesis =>
        cases others with
        | nil => cases alike
        | cons other others =>
            obtain ⟨first, rest⟩ := List.cons.inj alike
            obtain ⟨name, looks⟩ := Prod.mk.inj first
            rw [groupMembers, groupMembers, name, group_of_look looks,
              inductionHypothesis others rest]

end Payload

/-! ### From the server to the caller -/

namespace Rest

open Http

/-- What the answer to a task is taken for, if anything is taken of it. -/
def Task.shape? : Task → Option Shape
  | .resolve .. | .create .. | .getDetail _ | .getOwner _ | .putOwner .. => some .group
  | .getOptions _ | .putOptions .. => some .options
  | .listMembers .. | .addMembers .. => some .accounts
  | .queryGroups _ | .listIncludedGroups _ | .addIncludedGroups .. => some .groups
  | .listGroups _ => some .groupMap
  | .getName _ | .putName .. | .getDescription _ | .putDescription .. | .deleteDescription _
  | .removeMembers .. | .removeIncludedGroups .. | .index _ => none

/-- Everything that a server can be asked for, by the type of what is answered. -/
inductive Intake : Type → Type where
  | resolve (identifier : Value) : Intake Group
  | create (input : Value) : Intake Group
  | listing (filter : ListFilter) : Intake (Keyed Group)
  | query (filter : QueryFilter) : Intake (List Group)
  | perform (call : Call) : Intake Answer

namespace Intake

/-- Ask for it. -/
def run {α : Type} (client : Client) (intake : Intake α) : Exchange α :=
  match intake with
  | .resolve identifier => Rest.resolve client identifier
  | .create input => Rest.create client input
  | .listing filter => Rest.listGroups client filter
  | .query filter => Rest.queryGroups client filter
  | .perform call => Rest.perform client call

/-- The task that it comes to, once its arguments are in order. -/
def task {α : Type} (intake : Intake α) : Except Failure Task :=
  match intake with
  | .resolve identifier => Task.ofIdentifier identifier
  | .create input => Task.ofCreation input
  | .listing filter => .ok (.listGroups filter)
  | .query filter => .ok (.queryGroups filter)
  | .perform call => Task.ofCall call

/-- What is taken of the decoded answer to the task. -/
def take {α : Type} (intake : Intake α) (task : Task) (data : Json) : Except Failure α :=
  match intake with
  | .resolve _ | .create _ => Payload.identifiedGroup data
  | .listing _ => Payload.groupMap data
  | .query _ => Payload.groups data
  | .perform _ => task.answer data

variable {α : Type} {client : Client} {intake : Intake α} {task : Task} {shape : Shape}
  {one two : Json} {text : String} {network : Network} {wire sent : Wire}

/-- What comes of an answer is what is taken of what its text decodes to. -/
theorem run_of_isAnswered (made : intake.task = .ok task)
    (answered : task.IsAnswered client text network wire sent) :
    (intake.run client network wire).1 = task.decode text >>= intake.take task := by
  have settled (result : Except Failure α) (wire : Wire) :
      ((Failure.orThrow result : Exchange α) network wire).1 = result :=
    congrArg Prod.fst (Exchange.orThrow_eq _)
  cases intake with
  | resolve identifier => exact Task.outcome_of_isAnswered made answered fun data => settled _ _
  | create input => exact Task.outcome_of_isAnswered made answered fun data => settled _ _
  | perform call => exact Task.outcome_of_isAnswered made answered fun data => settled _ _
  | listing filter =>
      cases made
      exact congrArg Prod.fst (Exchange.bind_orThrow (Task.fetch_of_isAnswered answered))
  | query filter =>
      cases made
      exact congrArg Prod.fst (Exchange.bind_orThrow (Task.fetch_of_isAnswered answered))

/-- Values that are the same to whoever takes them for the shape of a task are answered in the same
way. -/
theorem answer_of_same (shaped : task.shape? = some shape) (same : shape.Same one two) :
    task.answer one = task.answer two := by
  cases task with
  | resolve id shown | create name input =>
      cases shaped
      simp only [Task.answer, Payload.identifiedGroup, Payload.group_of_look same]
  | getDetail id | getOwner id | putOwner id owner =>
      cases shaped
      simp only [Task.answer, Payload.group_of_look same]
  | getOptions id | putOptions id options =>
      cases shaped
      simp only [Task.answer, Payload.options_of_look same]
  | listMembers id recursive =>
      cases shaped
      simp only [Task.answer, Payload.accounts_of_sameItems same]
  | addMembers id members =>
      cases shaped
      simp only [Task.answer, Payload.accounts_of_sameItems (Payload.sameItems_additions same)]
  | listIncludedGroups id =>
      cases shaped
      simp only [Task.answer, Payload.groups_of_sameItems same]
  | addIncludedGroups id groups =>
      cases shaped
      simp only [Task.answer, Payload.groups_of_sameItems (Payload.sameItems_additions same)]
  | listGroups filter | queryGroups filter => rfl
  | _ => cases shaped

/-- The same is taken of values that are the same to whoever takes them for the shape of the
task. -/
theorem take_of_same (made : intake.task = .ok task) (shaped : task.shape? = some shape)
    (same : shape.Same one two) : intake.take task one = intake.take task two := by
  cases intake with
  | resolve identifier =>
      obtain ⟨id, -, rfl⟩ := Result.map_eq_ok_iff.1 made
      cases shaped
      simp only [take, Payload.identifiedGroup, Payload.group_of_look same]
  | create input =>
      obtain ⟨name, -, rfl⟩ := Task.exists_of_ofCreation made
      cases shaped
      simp only [take, Payload.identifiedGroup, Payload.group_of_look same]
  | listing filter =>
      cases made
      cases shaped
      exact Payload.groupMap_of_sameUnderNames same
  | query filter =>
      cases made
      cases shaped
      exact Payload.groups_of_sameItems same
  | perform call => exact answer_of_same shaped same

private theorem decode_of_parse (shaped : task.shape? = some shape)
    (parsed : Json.parse (dropGuard text) = .ok one) : task.decode text = .ok one := by
  unfold Task.decode
  cases method : task.method with
  | get => exact decodeJson_eq_ok_iff.2 parsed
  | put | post => exact decodeOptional_eq_ok_iff.2 (.inr parsed)
  | delete =>
      cases task with
      | deleteDescription id => cases shaped
      | _ => cases method

/-- Members without meaning make no difference: two answers to the same question, which differ only
in them and in the order of members, come to the same, be it a result or a failure with all that is
said to be wrong. -/
theorem run_of_varies (intake : Intake α) {otherText : String} {otherNetwork : Network}
    {otherWire otherSent : Wire} (made : intake.task = .ok task) (shaped : task.shape? = some shape)
    (answered : task.IsAnswered client text network wire sent)
    (answeredToo : task.IsAnswered client otherText otherNetwork otherWire otherSent)
    (parsed : Json.parse (dropGuard text) = .ok one)
    (parsedToo : Json.parse (dropGuard otherText) = .ok two) (varies : Json.Varies shape one two) :
    (intake.run client network wire).1 = (intake.run client otherNetwork otherWire).1 := by
  rw [run_of_isAnswered made answered, run_of_isAnswered made answeredToo,
    decode_of_parse shaped parsed, decode_of_parse shaped parsedToo]
  exact take_of_same made shaped varies.same

/-! A listing with one group, which has one member. -/

/-- A member that every group and account of the sample has, and that means nothing. -/
def sampleUnknown : Keyed Json := [("_links", .list [])]

/-- An account with a name, and perhaps with something unknown. -/
def sampleAccount (unknown : Keyed Json) : Json := .object (("name", .text "ann") :: unknown)

/-- A group with a member, and something unknown in between. -/
def sampleGroup : Json :=
  .object ([("id", .text "x")] ++ sampleUnknown ++
    [("members", .list [sampleAccount sampleUnknown])])

/-- The same group in another order and with nothing unknown. -/
def samplePlainGroup : Json :=
  .object [("members", .list [sampleAccount []]), ("id", .text "x")]

/-- A listing of a single group. -/
def sampleListing (group : Json) : Json := .object [("A", group)]

/-- A filter that lets everything through. -/
def sampleFilter : ListFilter := ⟨[], [], [], false, none, false, 0, 0, none, none⟩

/-- The text of the listing. -/
def sampleText (group : Json) : String := Json.render compact (sampleListing group)

/-- The network answers with success and with the listing. -/
def sampleNetwork (group : Json) : Network :=
  fun _ => .response ⟨200, [], (sampleText group).toUTF8.toList⟩

/-- The two listings differ only in what means nothing. -/
theorem varies_sample :
    Json.Varies .groupMap (sampleListing sampleGroup) (sampleListing samplePlainGroup) := by
  have inListing {old new : Json} (edited : Json.Edit .group old new) :
      Json.Edit .groupMap (sampleListing old) (sampleListing new) :=
    show Json.Edit .groupMap (.object ([] ++ ("A", old) :: [])) (.object ([] ++ ("A", new) :: []))
      from .part rfl edited
  have account : Json.Edit .account (sampleAccount sampleUnknown) (sampleAccount []) :=
    show Json.Edit .account (.object ([("name", .text "ann")] ++ sampleUnknown ++ []))
      (.object ([("name", .text "ann")] ++ [] ++ [])) from .unknown rfl (by decide) (by decide)
  have accounts : Json.Edit .accounts (.list [sampleAccount sampleUnknown])
      (.list [sampleAccount []]) :=
    show Json.Edit .accounts (.list ([] ++ sampleAccount sampleUnknown :: []))
      (.list ([] ++ sampleAccount [] :: [])) from .item rfl account
  have inGroup : Json.Edit .group sampleGroup
      (.object ([("id", .text "x")] ++ sampleUnknown ++
        [("members", .list [sampleAccount []])])) :=
    .part rfl accounts
  have removed : Json.Edit .group
      (.object ([("id", .text "x")] ++ sampleUnknown ++ [("members", .list [sampleAccount []])]))
      (.object ([("id", .text "x")] ++ [] ++ [("members", .list [sampleAccount []])])) :=
    .unknown rfl (by decide) (by decide)
  have swapped : Json.Edit .group
      (.object ([("id", .text "x")] ++ [] ++ [("members", .list [sampleAccount []])]))
      samplePlainGroup :=
    .reordered rfl (by decide) (.swap _ _ [])
  exact ((Relation.ReflTransGen.single (inListing inGroup)).tail (inListing removed)).tail
    (inListing swapped)

/-- Both listings are read back as they are written. -/
theorem isExact_sample :
    (sampleListing sampleGroup).IsExact ∧ (sampleListing samplePlainGroup).IsExact := by
  have account (unknown : Keyed Json) (among : unknown = [] ∨ unknown = sampleUnknown) :
      (sampleAccount unknown).IsExact := by
    rcases among with rfl | rfl
    · exact .object (by decide) (by simp [Json.IsExact.text])
    · exact .object (by decide) (by simp [sampleUnknown, Json.IsExact.text, Json.IsExact.list])
  have group : sampleGroup.IsExact := by
    refine .object (by decide) ?_
    simp [sampleUnknown, Json.IsExact.text, Json.IsExact.list, account]
  have plain : samplePlainGroup.IsExact := by
    refine .object (by decide) ?_
    simp [Json.IsExact.text, Json.IsExact.list, account]
  have listing {group : Json} (exact : group.IsExact) : (sampleListing group).IsExact :=
    .object (List.nodup_singleton _) (by simpa using exact)
  exact ⟨listing group, listing plain⟩

private theorem isAnswered_sample {group : Json}
    (among : group = sampleGroup ∨ group = samplePlainGroup) :
    ∃ sent, (Task.listGroups sampleFilter).IsAnswered (.new "http://h" none none (.int 30) [])
      (sampleText group) (sampleNetwork group) .fresh sent := by
  refine ⟨_, ⟨200, [], (sampleText group).toUTF8.toList⟩, Prod.ext ?answered rfl, ?readable⟩
  case answered =>
      apply Result.eq_ok_of_toOption
      rcases among with rfl | rfl <;> decide +kernel
  case readable =>
      apply Result.eq_ok_of_toOption
      rcases among with rfl | rfl <;> decide +kernel

/-- The sample listing comes to the same with and without what is unknown. -/
theorem run_of_varies_sample :
    let client : Client := .new "http://h" none none (.int 30) []
    ((Intake.listing sampleFilter).run client (sampleNetwork sampleGroup) .fresh).1 =
      ((Intake.listing sampleFilter).run client (sampleNetwork samplePlainGroup) .fresh).1 := by
  intro client
  obtain ⟨sent, answered⟩ := isAnswered_sample (.inl rfl)
  obtain ⟨otherSent, answeredToo⟩ := isAnswered_sample (.inr rfl)
  have unguarded : dropGuard (sampleText sampleGroup) = sampleText sampleGroup := by decide +kernel
  have unguardedToo : dropGuard (sampleText samplePlainGroup) = sampleText samplePlainGroup := by
    decide +kernel
  have parsed : Json.parse (dropGuard (sampleText sampleGroup)) =
      .ok (sampleListing sampleGroup) := by
    rw [unguarded]
    exact Json.parse_render compact_isPlain isExact_sample.1
  have parsedToo : Json.parse (dropGuard (sampleText samplePlainGroup)) =
      .ok (sampleListing samplePlainGroup) := by
    rw [unguardedToo]
    exact Json.parse_render compact_isPlain isExact_sample.2
  exact run_of_varies (.listing sampleFilter) rfl rfl answered answeredToo parsed parsedToo
    varies_sample

end Intake

end Rest

end ReviewGroups
