/-
Module: ReviewGroups.Proofs.RecordRoundTrip
Purpose: Records survive being written and read again: what is left when fields that are not set are
  left out is checked as the very same record, at every depth. Fields are compared one by one
  (`field_left` and its like): a field that was left out is read as not set, and one that is there
  is checked as it is. Numbers must be ones that can be written, which is shown of everything that
  passed a check.
Trusted boundary: none
Main exports: Account.check_omitNulls, Group.check_omitNulls, Record.check_body,
  Record.isExact_body_of_valid, Record.survives_render
-/
import ReviewGroups.Proofs.FilterState
import ReviewGroups.Proofs.RecordBody
import ReviewGroups.Proofs.ShortNumbers

namespace ReviewGroups

open Json

/-! ### Fields of what is left -/

/-- What is left of a value other than null is kept. -/
theorem Json.kept_of_ne_null {value : Json} (notNull : value ≠ .null) :
    value.kept = some value.omitNulls := by
  cases value with
  | null => exact absurd rfl notNull
  | _ => rfl

/-- Something other than null is left of a value other than null. -/
theorem Json.ofJson_omitNulls_ne_null {value : Json} (notNull : value ≠ .null) :
    Value.ofJson value.omitNulls ≠ .null := by
  cases value with
  | null => exact absurd rfl notNull
  | _ => exact Value.noConfusion

namespace Check

variable {α : Type} {name : String} {members : Keyed Json} {check : Value → Check α}

private theorem entry?_left (distinct : (Keyed.keys members).Nodup) (name : String) :
    Value.entry? name (Value.ofJsonMembers (omitNullsInMembers members)) =
      ((Keyed.get? name members).bind kept).map Value.ofJson := by
  rw [Value.entry?_ofJsonMembers]
  exact congrArg _ (member?_omitNulls distinct)

/-- A field that is set is checked as what is left of it. -/
theorem field_left {value : Json} {default result : α} (distinct : (Keyed.keys members).Nodup)
    (found : Keyed.get? name members = some value) (notNull : value ≠ .null)
    (back : check (.ofJson value.omitNulls) = .valid result) :
    field name default check (Value.ofJsonMembers (omitNullsInMembers members)) =
      .valid result := by
  rw [field_eq_valid_iff_entry, entry?_left distinct, found, Option.bind_some,
    kept_of_ne_null notNull]
  exact .inl ⟨_, rfl, back⟩

private theorem required_left {value : Json} {result : α} (distinct : (Keyed.keys members).Nodup)
    (found : Keyed.get? name members = some value) (notNull : value ≠ .null)
    (back : check (.ofJson value.omitNulls) = .valid result) :
    required name check (Value.ofJsonMembers (omitNullsInMembers members)) = .valid result := by
  unfold required
  rw [entry?_left distinct, found, Option.bind_some, kept_of_ne_null notNull]
  exact within_eq_valid_iff.2 back

/-- A field that may be null is checked as what is left of it, and as none if it was left out. -/
theorem optionalField_left {toJson : α → Json} {part : Option α}
    (distinct : (Keyed.keys members).Nodup)
    (found : Keyed.get? name members = some (Json.ofOption toJson part))
    (back : ∀ a ∈ part, toJson a ≠ .null ∧ check (.ofJson (toJson a).omitNulls) = .valid a) :
    optionalField name check (Value.ofJsonMembers (omitNullsInMembers members)) = .valid part := by
  unfold optionalField
  rw [field_eq_valid_iff_entry, entry?_left distinct, found, Option.bind_some]
  cases part with
  | none => exact .inr ⟨rfl, rfl⟩
  | some a =>
      obtain ⟨notNull, passes⟩ := back a rfl
      rw [Json.ofOption, kept_of_ne_null notNull]
      have passesToo := (optional_eq_valid_iff (ofJson_omitNulls_ne_null notNull)).2
        ⟨a, passes, rfl⟩
      exact .inl ⟨_, rfl, passesToo⟩

private theorem aliasedField_left {first second : String} {toJson : α → Json} {part : Option α}
    (distinct : (Keyed.keys members).Nodup) (unknown : Keyed.get? first members = none)
    (found : Keyed.get? second members = some (Json.ofOption toJson part))
    (back : ∀ a ∈ part, toJson a ≠ .null ∧ check (.ofJson (toJson a).omitNulls) = .valid a) :
    aliasedField first second check (Value.ofJsonMembers (omitNullsInMembers members)) =
      .valid part := by
  unfold aliasedField
  rw [entry?_left distinct, unknown]
  exact optionalField_left distinct found back

private theorem listOf_left {toJson : α → Json} {parts : List α}
    (back : ∀ a ∈ parts, check (.ofJson (toJson a).omitNulls) = .valid a) :
    listOf check (.ofJson (omitNulls (.list (parts.map toJson)))) = .valid parts := by
  change eachFrom check 0 (Value.ofJsonItems (omitNullsInItems (parts.map toJson))) = _
  rw [omitNullsInItems_eq_map, Value.ofJsonItems_eq_map, eachFrom_eq_valid_iff, List.map_map,
    List.map_map, List.forall₂_map_left_iff, List.forall₂_same]
  exact back

private theorem textField_left {part : Option String} (distinct : (Keyed.keys members).Nodup)
    (found : Keyed.get? name members = some (Json.ofOption .text part)) :
    optionalField name text (Value.ofJsonMembers (omitNullsInMembers members)) = .valid part :=
  optionalField_left distinct found fun _ _ => ⟨Json.noConfusion, rfl⟩

private theorem wholeField_left {part : Option Int} (distinct : (Keyed.keys members).Nodup)
    (found : Keyed.get? name members = some (Json.ofOption .int part)) :
    optionalField name whole (Value.ofJsonMembers (omitNullsInMembers members)) = .valid part :=
  optionalField_left distinct found fun _ _ => ⟨Json.noConfusion, rfl⟩

private theorem truthField_left {part : Option Bool} (distinct : (Keyed.keys members).Nodup)
    (found : Keyed.get? name members = some (Json.ofOption .bool part)) :
    optionalField name truth (Value.ofJsonMembers (omitNullsInMembers members)) = .valid part :=
  optionalField_left distinct found fun _ _ => ⟨Json.noConfusion, rfl⟩

private theorem listOf_ofTexts (texts : List String) :
    listOf text (.ofJson (ofTexts texts).omitNulls) = .valid texts := by
  have back : ∀ s ∈ texts, text (.ofJson (Json.text s).omitNulls) = .valid s := fun _ _ => rfl
  exact listOf_left back

private theorem tupleOf_listToJson (options : List DisplayOption) :
    tupleOf option (.ofJson (DisplayOption.listToJson options).omitNulls) = .valid options := by
  have back : ∀ o ∈ options, option (.ofJson (Json.text o.name).omitNulls) = .valid o := by
    intro o _
    change Check.ofOption .notOption (DisplayOption.ofName? o.name) = _
    rw [DisplayOption.ofName?_name]
    rfl
  unfold DisplayOption.listToJson ofTexts
  rw [List.map_map]
  exact listOf_left back

end Check

/-! ### Records -/

open Check

/-- An account is checked as it was. -/
theorem Account.check_omitNulls (account : Account) :
    check (.ofJson account.toJson.omitNulls) = .valid account := by
  obtain ⟨accountId, name, email, username⟩ := account
  have distinct {one two three four : Json} : (Keyed.keys [("account_id", one), ("name", two),
      ("email", three), ("username", four)]).Nodup := by
    simp [Keyed.keys]
  change Account.mk <$> _ <*> _ <*> _ <*> _ = _
  iterate 3 apply seq_eq_valid
  · exact map_eq_valid_iff.2
      ⟨_, aliasedField_left distinct rfl rfl fun n _ => ⟨Json.noConfusion, rfl⟩, rfl⟩
  · exact textField_left distinct rfl
  · exact textField_left distinct rfl
  · exact textField_left distinct rfl

theorem GroupOptions.check_omitNulls (options : GroupOptions) :
    check (.ofJson options.toJson.omitNulls) = .valid options := by
  change GroupOptions.mk <$> _ = _
  exact map_eq_valid_iff.2 ⟨_, truthField_left (by simp [Keyed.keys]) rfl, rfl⟩

/-- Included groups are written like any other part. -/
theorem Group.includesToJson_eq (includes : Option (List Group)) :
    includesToJson includes = Json.ofOption (fun groups => .list (groups.map toJson)) includes := by
  cases includes with
  | none => rfl
  | some groups => rw [includesToJson, listToJson_eq_map, Json.ofOption]

/-- A group is checked as it was, and so are the groups that it includes. -/
theorem Group.check_omitNulls : ∀ group : Group,
    check (.ofJson group.toJson.omitNulls) = .valid group
  | ⟨id, name, url, options, description, groupId, owner, ownerId, createdOn, moreGroups, members,
      includes⟩ => by
    have distinct {one two three four five six seven eight nine ten eleven twelve : Json} :
        (Keyed.keys [("id", one), ("name", two), ("url", three), ("options", four),
          ("description", five), ("group_id", six), ("owner", seven), ("owner_id", eight),
          ("created_on", nine), ("more_groups", ten), ("members", eleven),
          ("includes", twelve)]).Nodup := by
      simp [Keyed.keys]
    have included : ∀ groups ∈ includes,
        (Json.list (groups.map toJson)) ≠ .null ∧
          listOf check (.ofJson (Json.list (groups.map toJson)).omitNulls) = .valid groups := by
      intro groups known
      refine ⟨Json.noConfusion, listOf_left fun group among => ?_⟩
      have smaller : sizeOf group < sizeOf groups := List.sizeOf_lt_of_mem among
      have inside : sizeOf groups < sizeOf includes := by
        rw [Option.mem_def.1 known, Option.some.sizeOf_spec]
        omega
      exact check_omitNulls group
    rw [toJson, includesToJson_eq]
    change ofEntries _ ((checkIncludes _).within (.field includesName)) = _
    rw [checkIncludes_eq_optionalField]
    unfold ofEntries
    iterate 11 apply seq_eq_valid
    · exact map_eq_valid_iff.2 ⟨_, textField_left distinct rfl, rfl⟩
    · exact textField_left distinct rfl
    · exact textField_left distinct rfl
    · exact optionalField_left distinct rfl fun options _ =>
        ⟨Json.noConfusion, GroupOptions.check_omitNulls options⟩
    · exact textField_left distinct rfl
    · exact wholeField_left distinct rfl
    · exact textField_left distinct rfl
    · exact textField_left distinct rfl
    · exact textField_left distinct rfl
    · exact aliasedField_left distinct rfl rfl fun b _ => ⟨Json.noConfusion, rfl⟩
    · exact optionalField_left distinct rfl fun accounts _ =>
        ⟨Json.noConfusion, listOf_left fun account _ => Account.check_omitNulls account⟩
    · exact optionalField_left distinct rfl included
termination_by group => sizeOf group
decreasing_by
  simp only [Group.mk.sizeOf_spec]
  omega

/-- A group to create is checked as it was. -/
theorem GroupInput.check_omitNulls (input : GroupInput) :
    check (.ofJson input.toJson.omitNulls) = .valid input := by
  obtain ⟨name, uuid, description, visibleToAll, ownerId, members⟩ := input
  have distinct {one two three four five six : Json} : (Keyed.keys [("name", one), ("uuid", two),
      ("description", three), ("visible_to_all", four), ("owner_id", five),
      ("members", six)]).Nodup := by
    simp [Keyed.keys]
  change GroupInput.mk <$> _ <*> _ <*> _ <*> _ <*> _ <*> _ = _
  iterate 5 apply seq_eq_valid
  · exact map_eq_valid_iff.2 ⟨_, textField_left distinct rfl, rfl⟩
  · exact textField_left distinct rfl
  · exact textField_left distinct rfl
  · exact truthField_left distinct rfl
  · exact textField_left distinct rfl
  · exact optionalField_left distinct rfl fun texts _ => ⟨Json.noConfusion, listOf_ofTexts texts⟩

/-- A list filter is checked as it was. -/
theorem ListFilter.check_omitNulls (filter : ListFilter) :
    check (.ofJson filter.toJson.omitNulls) = .valid filter := by
  obtain ⟨options, projects, groups, visibleToAll, user, owned, limit, start, substring, suggest⟩ :=
    filter
  have distinct {one two three four five six seven eight nine ten : Json} :
      (Keyed.keys [("options", one), ("projects", two), ("groups", three), ("visible_to_all", four),
        ("user", five), ("owned", six), ("limit", seven), ("start", eight), ("substring", nine),
        ("suggest", ten)]).Nodup := by
    simp [Keyed.keys]
  change ListFilter.mk <$> _ <*> _ <*> _ <*> _ <*> _ <*> _ <*> _ <*> _ <*> _ <*> _ = _
  iterate 9 apply seq_eq_valid
  · exact map_eq_valid_iff.2
      ⟨_, field_left distinct rfl Json.noConfusion (tupleOf_listToJson options), rfl⟩
  · exact field_left distinct rfl Json.noConfusion (listOf_ofTexts projects)
  · exact field_left distinct rfl Json.noConfusion (listOf_ofTexts groups)
  · exact field_left distinct rfl Json.noConfusion rfl
  · exact textField_left distinct rfl
  · exact field_left distinct rfl Json.noConfusion rfl
  · exact field_left distinct rfl Json.noConfusion rfl
  · exact field_left distinct rfl Json.noConfusion rfl
  · exact textField_left distinct rfl
  · exact textField_left distinct rfl

/-- A query filter is checked as it was. -/
theorem QueryFilter.check_omitNulls (filter : QueryFilter) :
    check (.ofJson filter.toJson.omitNulls) = .valid filter := by
  obtain ⟨query, limit, start, options⟩ := filter
  have distinct {one two three four : Json} : (Keyed.keys [("query", one), ("limit", two),
      ("start", three), ("options", four)]).Nodup := by
    simp [Keyed.keys]
  change QueryFilter.mk <$> _ <*> _ <*> _ <*> _ = _
  iterate 3 apply seq_eq_valid
  · exact map_eq_valid_iff.2 ⟨_, textField_left distinct rfl, rfl⟩
  · exact field_left distinct rfl Json.noConfusion rfl
  · exact field_left distinct rfl Json.noConfusion rfl
  · exact field_left distinct rfl Json.noConfusion (tupleOf_listToJson options)

/-- A record of any schema but settings is checked as it was. -/
theorem Record.check_body {record : Record} (kind : record.schema ≠ .settings) :
    record.schema.check (.ofJson record.body) = .valid record := by
  have single {name : String} {value : Json} : (Keyed.keys [(name, value)]).Nodup :=
    List.nodup_singleton _
  cases record with
  | account account => exact map_eq_valid_iff.2 ⟨_, account.check_omitNulls, rfl⟩
  | groupOptions options => exact map_eq_valid_iff.2 ⟨_, options.check_omitNulls, rfl⟩
  | group group => exact map_eq_valid_iff.2 ⟨_, group.check_omitNulls, rfl⟩
  | groupInput input => exact map_eq_valid_iff.2 ⟨_, input.check_omitNulls, rfl⟩
  | listFilter filter => exact map_eq_valid_iff.2 ⟨_, filter.check_omitNulls, rfl⟩
  | queryFilter filter => exact map_eq_valid_iff.2 ⟨_, filter.check_omitNulls, rfl⟩
  | groupOptionsInput input =>
      refine map_eq_valid_iff.2 ⟨input, map_eq_valid_iff.2 ⟨input.visibleToAll, ?_, rfl⟩, rfl⟩
      exact truthField_left single rfl
  | nameInput input =>
      refine map_eq_valid_iff.2 ⟨input, map_eq_valid_iff.2 ⟨input.name, ?_, rfl⟩, rfl⟩
      exact required_left single rfl Json.noConfusion rfl
  | descriptionInput input =>
      refine map_eq_valid_iff.2 ⟨input, map_eq_valid_iff.2 ⟨input.description, ?_, rfl⟩, rfl⟩
      exact textField_left single rfl
  | ownerInput input =>
      refine map_eq_valid_iff.2 ⟨input, map_eq_valid_iff.2 ⟨input.owner, ?_, rfl⟩, rfl⟩
      exact required_left single rfl Json.noConfusion rfl
  | membersInput input =>
      refine map_eq_valid_iff.2 ⟨input, map_eq_valid_iff.2 ⟨input.members, ?_, rfl⟩, rfl⟩
      exact required_left single rfl Json.noConfusion (listOf_ofTexts _)
  | groupsInput input =>
      refine map_eq_valid_iff.2 ⟨input, map_eq_valid_iff.2 ⟨input.groups, ?_, rfl⟩, rfl⟩
      exact required_left single rfl Json.noConfusion (listOf_ofTexts _)
  | settings settings => exact absurd rfl kind

/-! ### Numbers of records -/

namespace Json

variable {members : Keyed Json} {name : String} {data : Json}

theorem HasShortNumbers.member (short : (Json.object members).HasShortNumbers)
    (found : Keyed.get? name members = some data) : data.HasShortNumbers := by
  cases short with
  | object each => exact each _ (Keyed.mem_of_get? found)

theorem HasShortNumbers.item {items : List Json} (short : (Json.list items).HasShortNumbers)
    (among : data ∈ items) : data.HasShortNumbers := by
  cases short with
  | list each => exact each data among

private theorem isExact_part {α : Type} {toJson : α → Json} {part : Option α}
    (exact : ∀ a ∈ part, (toJson a).IsExact) : (ofOption toJson part).IsExact := by
  cases part with
  | none => exact .null
  | some a => exact exact a rfl

private theorem isExact_items {α : Type} {toJson : α → Json} {parts : List α}
    (exact : ∀ a ∈ parts, (toJson a).IsExact) : (Json.list (parts.map toJson)).IsExact := by
  refine .list fun item present => ?_
  obtain ⟨a, among, rfl⟩ := List.mem_map.1 present
  exact exact a among

private theorem isExact_whole {part : Option Json} {number : Option Int}
    (short : ∀ data ∈ part, data.HasShortNumbers) (read : IsOptional IsWhole part number) :
    (ofOption .int number).IsExact := by
  refine isExact_part fun n known => ?_
  cases read with
  | missing => cases known
  | null => cases known
  | given _ read =>
      cases known
      exact .int (read.isShort (short _ rfl))

/-- What is read of an object as an account is written exactly. -/
theorem DescribesAccount.isExact {account : Account} (describes : data.DescribesAccount account)
    (short : data.HasShortNumbers) : account.toJson.IsExact := by
  cases describes with
  | @object members account accountId name email username =>
      have shortId : ∀ data ∈
          (Keyed.get? "_account_id" members).or (Keyed.get? "account_id" members),
          data.HasShortNumbers := by
        intro data found
        rcases Option.or_eq_some_iff.1 found with first | ⟨-, second⟩
        · exact short.member first
        · exact short.member second
      have exactId := isExact_whole shortId accountId
      refine .object (by simp [Keyed.keys]) ?_
      simp [exactId, isExact_ofOption, IsExact.text]

/-- What is read of a list, item by item, is written exactly if each part is. -/
theorem isExact_listOf {α : Type} {reads : Json → α → Prop} {toJson : α → Json}
    {part : Option Json} {read : Option (List α)}
    (described : IsOptional (IsListOf reads) part read)
    (exact : ∀ items, part = some (.list items) → ∀ item ∈ items, ∀ a, reads item a →
      (toJson a).IsExact) :
    (ofOption (fun parts => .list (parts.map toJson)) read).IsExact := by
  refine isExact_part fun parts known => ?_
  cases described with
  | missing => cases known
  | null => cases known
  | given _ described =>
      cases known
      cases described with
      | items all =>
          refine isExact_items fun a among => ?_
          obtain ⟨item, there, read⟩ := exists_mem_of_forall₂ all among
          exact exact _ rfl item there a read

private theorem isExact_options (options : GroupOptions) : options.toJson.IsExact := by
  refine .object (by simp [Keyed.keys]) ?_
  simp [isExact_ofOption, IsExact.bool]

/-- What is read of an object as a group is written exactly, and so are the groups that it
includes. -/
theorem DescribesGroup.isExact : ∀ {data : Json} {group : Group}, data.DescribesGroup group →
    data.HasShortNumbers → group.toJson.IsExact
  | .object members, group, describes, short => by
      cases describes with
      | object id name url options description groupId owner ownerId createdOn moreGroups accounts
          includes =>
          have exactNumber := isExact_whole (fun _ => short.member) groupId
          have exactAccounts : (ofOption (fun accounts => .list (accounts.map Account.toJson))
              group.members).IsExact := by
            refine isExact_listOf accounts fun items found item among account describes => ?_
            exact describes.isExact ((short.member found).item among)
          have exactIncludes : (ofOption (fun groups => .list (groups.map Group.toJson))
              group.includes).IsExact := by
            refine isExact_listOf includes fun items found item among inner describes => ?_
            have inside := sizeOf_lt_of_get? found
            have smaller := sizeOf_lt_of_mem among
            exact describes.isExact ((short.member found).item among)
          obtain ⟨_, _, _, _, _, _, _, _, _, _, _, _⟩ := group
          rw [Group.toJson, Group.includesToJson_eq]
          refine .object (by simp [Keyed.keys]) ?_
          simp [exactNumber, exactAccounts, exactIncludes, isExact_ofOption, isExact_options,
            IsExact.text, IsExact.bool]
termination_by data => sizeOf data
decreasing_by exact Nat.lt_trans smaller inside

private theorem isShort_field {n : Int} (short : (Json.object members).HasShortNumbers)
    (passed : Check.field name 0 whole (Value.ofJsonMembers members) = .valid n) : IsShort n := by
  rw [field_eq_valid_iff_entry, Value.entry?_ofJsonMembers] at passed
  rcases passed with ⟨value, there, passes⟩ | ⟨-, rfl⟩
  · obtain ⟨data, found, rfl⟩ := Option.map_eq_some_iff.1 there
    exact (whole_ofJson_eq_valid_iff.1 passes).isShort (short.member found)
  · exact isShort_of_moderate (by decide) (by decide)

private theorem isExact_listToJson (options : List DisplayOption) :
    (DisplayOption.listToJson options).IsExact :=
  isExact_ofTexts _

/-- A list filter that is checked is written exactly. -/
theorem isExact_listFilter {filter : ListFilter} (short : data.HasShortNumbers)
    (valid : ListFilter.check (.ofJson data) = .valid filter) : filter.toJson.IsExact := by
  cases data with
  | object members =>
      change ListFilter.mk <$> _ <*> _ <*> _ <*> _ <*> _ <*> _ <*> _ <*> _ <*> _ <*> _ = _ at valid
      simp only [seq_eq_valid_iff, map_eq_valid_iff] at valid
      obtain ⟨_, suggest, ⟨_, substring, ⟨_, start, ⟨_, limit, ⟨_, owned, ⟨_, user, ⟨_, visible,
        ⟨_, groups, ⟨_, projects, ⟨options, -, rfl⟩, -, rfl⟩, -, rfl⟩, -, rfl⟩, -, rfl⟩, -, rfl⟩,
        passedLimit, rfl⟩, passedStart, rfl⟩, -, rfl⟩, -, rfl⟩ := valid
      have exactLimit := IsExact.int (isShort_field short passedLimit)
      have exactStart := IsExact.int (isShort_field short passedStart)
      refine .object (by simp [Keyed.keys]) ?_
      simp [isExact_listToJson, isExact_ofTexts, isExact_ofOption, IsExact.text, IsExact.bool,
        exactLimit, exactStart]
  | _ => cases valid

/-- A query filter that is checked is written exactly. -/
theorem isExact_queryFilter {filter : QueryFilter} (short : data.HasShortNumbers)
    (valid : QueryFilter.check (.ofJson data) = .valid filter) : filter.toJson.IsExact := by
  cases data with
  | object members =>
      change QueryFilter.mk <$> _ <*> _ <*> _ <*> _ = _ at valid
      simp only [seq_eq_valid_iff, map_eq_valid_iff] at valid
      obtain ⟨_, options, ⟨_, start, ⟨_, limit, ⟨query, -, rfl⟩, passedLimit, rfl⟩, passedStart,
        rfl⟩, -, rfl⟩ := valid
      have exactLimit := IsExact.int (isShort_field short passedLimit)
      have exactStart := IsExact.int (isShort_field short passedStart)
      refine .object (by simp [Keyed.keys]) ?_
      simp [isExact_listToJson, isExact_ofOption, IsExact.text, exactLimit, exactStart]
  | _ => cases valid

end Json

theorem Record.schema_of_check {schema : Schema} {value : Value} {record : Record}
    (valid : schema.check value = .valid record) : record.schema = schema := by
  cases schema <;> obtain ⟨entity, -, rfl⟩ := map_eq_valid_iff.1 valid <;> rfl

/-- A record that is checked, of any schema but settings, is written exactly. -/
theorem Record.isExact_body_of_valid {schema : Schema} (kind : schema ≠ .settings) {data : Json}
    {record : Record} (short : data.HasShortNumbers)
    (valid : schema.check (.ofJson data) = .valid record) : record.body.IsExact := by
  cases schema
  case settings => exact absurd rfl kind
  case account =>
      obtain ⟨account, checked, rfl⟩ := map_eq_valid_iff.1 valid
      exact ((Account.check_ofJson_eq_valid_iff.1 checked).isExact short).omitNulls
  case groupOptions =>
      obtain ⟨options, -, rfl⟩ := map_eq_valid_iff.1 valid
      exact (isExact_options options).omitNulls
  case group =>
      obtain ⟨group, checked, rfl⟩ := map_eq_valid_iff.1 valid
      exact (((Group.check_ofJson_eq_valid_iff _ _).1 checked).isExact short).omitNulls
  case listFilter =>
      obtain ⟨filter, checked, rfl⟩ := map_eq_valid_iff.1 valid
      exact (isExact_listFilter short checked).omitNulls
  case queryFilter =>
      obtain ⟨filter, checked, rfl⟩ := map_eq_valid_iff.1 valid
      exact (isExact_queryFilter short checked).omitNulls
  -- All others are bodies of requests, in which there are no numbers at all.
  all_goals
    obtain ⟨input, -, rfl⟩ := map_eq_valid_iff.1 valid
    exact IsInput.isExact_body trivial

/-- A record of any schema but settings survives: what is written of it, without the fields that are
not set, is read, and checked as the very same record. -/
theorem Record.survives_render {separators : Separators} (plain : separators.IsPlain)
    {schema : Schema} (kind : schema ≠ .settings) {text : String} {data : Json} {record : Record}
    (parsed : Json.parse text = .ok data) (valid : schema.check (.ofJson data) = .valid record) :
    ∃ again, Json.parse (Json.render separators record.body) = .ok again ∧
      schema.check (.ofJson again) = .valid record := by
  have exact := isExact_body_of_valid kind (hasShortNumbers_of_parse parsed) valid
  refine ⟨record.body, parse_render plain exact, ?_⟩
  obtain rfl := schema_of_check valid
  exact check_body kind

/-- A group with a number that is written as text, a word for yes, a member, and a group of which
nothing is known. -/
def sampleGroupData : Json :=
  .object
    [("group_id", .text "7.0"), ("_more_groups", .text "YES"), ("name", .null),
      ("members", .list [.object [("_account_id", .bool true)]]), ("options", .object []),
      ("includes", .list [.object []])]

/-- That group survives. -/
theorem Record.survives_render_sample :
    let text := Json.render compact sampleGroupData
    let record : Record := .group
      { Group.blank with
        groupId := some 7
        moreGroups := some true
        members := some [⟨some 1, none, none, none⟩]
        options := some ⟨none⟩
        includes := some [Group.blank] }
    Json.parse text = .ok sampleGroupData ∧
      Schema.check .group (.ofJson sampleGroupData) = .valid record ∧
      ∃ again, Json.parse (Json.render compact record.body) = .ok again ∧
        Schema.check .group (.ofJson again) = .valid record := by
  intro text record
  have exact : sampleGroupData.IsExact := by
    refine .object (by decide) ?_
    simp [IsExact.text, IsExact.null, IsExact.list, IsExact.object, IsExact.bool, Keyed.keys]
  have parsed : Json.parse text = .ok sampleGroupData := parse_render compact_isPlain exact
  have valid : Schema.check .group (.ofJson sampleGroupData) = .valid record := rfl
  exact ⟨parsed, valid, survives_render compact_isPlain (by decide) parsed valid⟩

end ReviewGroups
