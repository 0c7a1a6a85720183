/-
Module: ReviewGroups.Proofs.GroupShape
Purpose: The JSON values that stand for accounts, group options and groups, member by member and at
  every depth, and that exactly these pass the checks. `Json.DescribesGroup` is a relation between
  values and groups that does not mention the checks; groups contain groups, so it is by recursion
  on the value. Members that have no meaning are ignored, members with two names are read under
  either. There is no bound on the depth.
Trusted boundary: none
Main exports: Json.IsOptional, Json.IsListOf, Json.IsMapOf, Json.DescribesAccount,
  Json.DescribesOptions, Json.DescribesGroup, Account.check_ofJson_eq_valid_iff,
  Group.check_ofJson_eq_valid_iff
-/
import ReviewGroups.Proofs.CheckResult
import ReviewGroups.Proofs.Pairing

namespace ReviewGroups

namespace Json

variable {α : Type}

/-! ### Single values -/

/-- A value is read as a text: only a text is. -/
inductive IsText : Json → String → Prop where
  | text (s : String) : IsText (.text s) s

/-- A value is read as a whole number: whole numbers, truth values as one and zero, numbers without
fraction and of moderate size, and texts that write a whole number. -/
inductive IsWhole : Json → Int → Prop where
  | int (n : Int) : IsWhole (.int n) n
  | bool (b : Bool) : IsWhole (.bool b) (if b then 1 else 0)
  | float {x : Binary64} {n : Int} (whole : x.toInt? = some n)
      (least : -Check.wholeBound < n) (greatest : n < Check.wholeBound) : IsWhole (.float x) n
  | text {s : String} {n : Int} (written : Check.wholeOfText s = .valid n) : IsWhole (.text s) n

/-- A value is read as a truth value: truth values, one and zero, and the words for yes and no in
any case. -/
inductive IsTruth : Json → Bool → Prop where
  | bool (b : Bool) : IsTruth (.bool b) b
  | int (b : Bool) : IsTruth (.int (if b then 1 else 0)) b
  | float {x : Binary64} {b : Bool} (whole : x.toInt? = some (if b then 1 else 0)) :
      IsTruth (.float x) b
  | yes {s : String} (word : String.ofList (s.toList.map Char.toLower) ∈ Check.yesWords) :
      IsTruth (.text s) true
  | no {s : String} (word : String.ofList (s.toList.map Char.toLower) ∈ Check.noWords) :
      IsTruth (.text s) false

/-! ### Parts -/

/-- A part that may be missing or null is none then, and otherwise what is read of it. -/
inductive IsOptional (reads : Json → α → Prop) : Option Json → Option α → Prop where
  | missing : IsOptional reads none none
  | null : IsOptional reads (some .null) none
  | given {data : Json} {part : α} (notNull : data ≠ .null) (read : reads data part) :
      IsOptional reads (some data) (some part)

/-- A list is read item by item, in order. -/
inductive IsListOf (reads : Json → α → Prop) : Json → List α → Prop where
  | items {items : List Json} {parts : List α} (all : List.Forall₂ reads items parts) :
      IsListOf reads (.list items) parts

/-- An object is read member by member, in order, and each part keeps its name. -/
inductive IsMapOf (reads : Json → α → Prop) : Json → Keyed α → Prop where
  | members {members : Keyed Json} {parts : Keyed α}
      (all :
        List.Forall₂ (fun member part => member.1 = part.1 ∧ reads member.2 part.2) members parts) :
      IsMapOf reads (.object members) parts

/-! ### Objects -/

/-- An object describes an account.  Of the two names of the number, the first one counts if it is
there. -/
inductive DescribesAccount : Json → Account → Prop where
  | object {members : Keyed Json} {account : Account}
      (accountId :
        IsOptional IsWhole
          ((Keyed.get? "_account_id" members).or (Keyed.get? "account_id" members))
          account.accountId)
      (name : IsOptional IsText (Keyed.get? "name" members) account.name)
      (email : IsOptional IsText (Keyed.get? "email" members) account.email)
      (username : IsOptional IsText (Keyed.get? "username" members) account.username) :
      DescribesAccount (.object members) account

/-- An object describes group options. -/
inductive DescribesOptions : Json → GroupOptions → Prop where
  | object {members : Keyed Json} {options : GroupOptions}
      (visibleToAll :
        IsOptional IsTruth (Keyed.get? "visible_to_all" members) options.visibleToAll) :
      DescribesOptions (.object members) options

/-- An object describes a group, with its options, its members and the groups that it includes. -/
inductive DescribesGroup : Json → Group → Prop where
  | object {members : Keyed Json} {group : Group}
      (id : IsOptional IsText (Keyed.get? "id" members) group.id)
      (name : IsOptional IsText (Keyed.get? "name" members) group.name)
      (url : IsOptional IsText (Keyed.get? "url" members) group.url)
      (options : IsOptional DescribesOptions (Keyed.get? "options" members) group.options)
      (description : IsOptional IsText (Keyed.get? "description" members) group.description)
      (groupId : IsOptional IsWhole (Keyed.get? "group_id" members) group.groupId)
      (owner : IsOptional IsText (Keyed.get? "owner" members) group.owner)
      (ownerId : IsOptional IsText (Keyed.get? "owner_id" members) group.ownerId)
      (createdOn : IsOptional IsText (Keyed.get? "created_on" members) group.createdOn)
      (moreGroups :
        IsOptional IsTruth
          ((Keyed.get? "_more_groups" members).or (Keyed.get? "more_groups" members))
          group.moreGroups)
      (accounts :
        IsOptional (IsListOf DescribesAccount) (Keyed.get? "members" members) group.members)
      (includes :
        IsOptional (IsListOf DescribesGroup) (Keyed.get? "includes" members) group.includes) :
      DescribesGroup (.object members) group

end Json

/-! ### Values that come from JSON -/

namespace Value

/-- The value under a key is that of the member. -/
theorem entry?_ofJsonMembers (key : String) (members : Keyed Json) :
    entry? key (ofJsonMembers members) = (Keyed.get? key members).map ofJson := by
  induction members with
  | nil => rfl
  | cons member members inductionHypothesis =>
      obtain ⟨name, data⟩ := member
      by_cases hit : name = key
      · simp [ofJsonMembers, entry?, Keyed.get?, hit]
      · simp [ofJsonMembers, entry?, Keyed.get?, hit, inductionHypothesis]

theorem ofJsonItems_eq_map (items : List Json) : ofJsonItems items = items.map ofJson := by
  induction items with
  | nil => rfl
  | cons item items inductionHypothesis => simp [ofJsonItems, inductionHypothesis]

theorem ofJson_eq_null_iff {data : Json} : ofJson data = .null ↔ data = .null := by
  cases data <;> simp [ofJson]

end Value

namespace Check

/-! ### Single values -/

private theorem text_ofJson_eq_valid_iff {data : Json} {s : String} :
    text (.ofJson data) = .valid s ↔ data.IsText s := by
  constructor
  · intro passed
    cases data <;> cases passed
    exact .text _
  · rintro ⟨⟩
    rfl

/-- A number passes as a whole number exactly if it is one of moderate size. -/
theorem wholeOfNumber_eq_valid_iff {x : Binary64} {n : Int} :
    wholeOfNumber x = .valid n ↔ x.toInt? = some n ∧ -wholeBound < n ∧ n < wholeBound := by
  have finite : x.isFinite = false → x.toInt? = none := by
    unfold Binary64.isFinite Binary64.toInt?
    cases x.decode <;> simp
  unfold wholeOfNumber
  cases isFinite : x.isFinite with
  | false => simp [finite isFinite, fault]
  | true =>
      cases whole : x.toInt? with
      | none => simp [fault]
      | some m =>
          by_cases moderate : -wholeBound < m ∧ m < wholeBound
          · simp only [Bool.not_true, Bool.false_eq_true, if_false, moderate, and_self, if_true,
              valid.injEq, Option.some.injEq]
            constructor
            · rintro rfl
              exact ⟨rfl, moderate⟩
            · exact fun same => same.1
          · simp only [Bool.not_true, Bool.false_eq_true, if_false, moderate, fault, reduceCtorEq,
              Option.some.injEq, false_iff]
            rintro ⟨rfl, moderateToo⟩
            exact moderate moderateToo

/-- Exactly what is read as a whole number passes as one. -/
theorem whole_ofJson_eq_valid_iff {data : Json} {n : Int} :
    whole (.ofJson data) = .valid n ↔ data.IsWhole n := by
  constructor
  · intro passed
    cases data with
    | int m =>
        cases passed
        exact .int _
    | bool b =>
        cases passed
        exact .bool _
    | float x =>
        obtain ⟨isWhole, least, greatest⟩ := wholeOfNumber_eq_valid_iff.1 passed
        exact .float isWhole least greatest
    | text s => exact .text passed
    | _ => cases passed
  · intro read
    cases read with
    | int => rfl
    | bool => rfl
    | float isWhole least greatest =>
        exact wholeOfNumber_eq_valid_iff.2 ⟨isWhole, least, greatest⟩
    | text written => exact written

private theorem truthOfWhole_eq_valid_iff {n : Int} {b : Bool} :
    truthOfWhole n = .valid b ↔ n = if b then 1 else 0 := by
  unfold truthOfWhole
  by_cases one : n = 1
  · cases b <;> simp [one]
  · by_cases zero : n = 0
    · cases b <;> simp [zero]
    · rw [if_neg one, if_neg zero]
      have refused : ∀ kind, (fault kind : Check Bool) ≠ .valid b := by simp [fault]
      cases b <;> split <;> simp [refused, one, zero]

private theorem truthOfText_eq_valid_iff {s : String} {b : Bool} :
    truthOfText s = .valid b ↔
      String.ofList (s.toList.map Char.toLower) ∈ if b then yesWords else noWords := by
  have apart : ∀ word ∈ yesWords, word ∉ noWords := by decide
  unfold truthOfText
  by_cases yes : String.ofList (s.toList.map Char.toLower) ∈ yesWords
  · have no := apart _ yes
    cases b <;> simp [yes, no]
  · by_cases no : String.ofList (s.toList.map Char.toLower) ∈ noWords
    · cases b <;> simp [yes, no]
    · cases b <;> simp [yes, no, fault]

/-- A number passes as a truth value exactly if it is one or zero. -/
theorem truth_float_eq_valid_iff {x : Binary64} {b : Bool} :
    truth (.float x) = .valid b ↔ x.toInt? = some (if b then 1 else 0) := by
  have moderate : ∀ b : Bool, -wholeBound < (if b then 1 else 0 : Int) ∧
      (if b then 1 else 0 : Int) < wholeBound := by decide
  simp only [truth]
  constructor
  · intro passed
    split at passed
    next n whole =>
      rw [truthOfWhole_eq_valid_iff] at passed
      rw [← passed]
      exact (wholeOfNumber_eq_valid_iff.1 whole).1
    next => cases passed
  · intro isWhole
    rw [wholeOfNumber_eq_valid_iff.2 ⟨isWhole, moderate b⟩]
    exact truthOfWhole_eq_valid_iff.2 rfl

/-- Exactly what is read as a truth value passes as one. -/
theorem truth_ofJson_eq_valid_iff {data : Json} {b : Bool} :
    truth (.ofJson data) = .valid b ↔ data.IsTruth b := by
  constructor
  · intro passed
    cases data with
    | bool =>
        cases passed
        exact .bool _
    | int n =>
        have isOne := truthOfWhole_eq_valid_iff.1 passed
        subst isOne
        exact .int b
    | float x => exact .float (truth_float_eq_valid_iff.1 passed)
    | text s =>
        have word := truthOfText_eq_valid_iff.1 passed
        cases b with
        | true => exact .yes word
        | false => exact .no word
    | _ => cases passed
  · intro read
    cases read with
    | bool => rfl
    | int => exact truthOfWhole_eq_valid_iff.2 rfl
    | float whole => exact truth_float_eq_valid_iff.2 whole
    | yes word => exact truthOfText_eq_valid_iff.2 word
    | no word => exact truthOfText_eq_valid_iff.2 word

/-! ### Parts -/

variable {α : Type} {reads : Json → α → Prop} {check : Value → Check α}

/-- A value that may be null passes exactly if it is null, or is read as what it should be. -/
theorem optional_ofJson_eq_valid_iff {data : Json} {part : Option α}
    (agree : ∀ part, check (.ofJson data) = .valid part ↔ reads data part) :
    optional check (.ofJson data) = .valid part ↔ Json.IsOptional reads (some data) part := by
  by_cases null : data = .null
  · subst null
    constructor
    · intro passed
      cases passed
      exact .null
    · intro read
      cases read with
      | null => rfl
      | given notNull => exact absurd rfl notNull
  · have notNull : Value.ofJson data ≠ .null := fun isNull =>
      null (Value.ofJson_eq_null_iff.1 isNull)
    rw [optional_of_ne_null notNull, map_eq_valid_iff]
    constructor
    · rintro ⟨value, passed, rfl⟩
      exact .given null ((agree value).1 passed)
    · intro read
      cases read with
      | null => exact absurd rfl null
      | given _ read => exact ⟨_, (agree _).2 read, rfl⟩

/-- A member that may be left out passes exactly if it is read as what it should be. -/
theorem optionalField_ofJson_eq_valid_iff {name : String} {members : Keyed Json} {part : Option α}
    (agree : ∀ data, Keyed.get? name members = some data →
      ∀ part, check (.ofJson data) = .valid part ↔ reads data part) :
    optionalField name check (Value.ofJsonMembers members) = .valid part ↔
      Json.IsOptional reads (Keyed.get? name members) part := by
  unfold optionalField field
  rw [Value.entry?_ofJsonMembers]
  cases found : Keyed.get? name members with
  | none =>
      constructor
      · intro passed
        cases passed
        exact .missing
      · rintro ⟨⟩
        rfl
  | some data =>
      change (optional check (.ofJson data)).within (.field name) = _ ↔ _
      rw [within_eq_valid_iff]
      exact optional_ofJson_eq_valid_iff (agree data found)

private theorem textField_eq_valid_iff {name : String} {members : Keyed Json}
    {part : Option String} :
    optionalField name text (Value.ofJsonMembers members) = .valid part ↔
      Json.IsOptional Json.IsText (Keyed.get? name members) part :=
  optionalField_ofJson_eq_valid_iff fun _ _ _ => text_ofJson_eq_valid_iff

private theorem wholeField_eq_valid_iff {name : String} {members : Keyed Json} {part : Option Int} :
    optionalField name whole (Value.ofJsonMembers members) = .valid part ↔
      Json.IsOptional Json.IsWhole (Keyed.get? name members) part :=
  optionalField_ofJson_eq_valid_iff fun _ _ _ => whole_ofJson_eq_valid_iff

private theorem truthField_eq_valid_iff {name : String} {members : Keyed Json}
    {part : Option Bool} :
    optionalField name truth (Value.ofJsonMembers members) = .valid part ↔
      Json.IsOptional Json.IsTruth (Keyed.get? name members) part :=
  optionalField_ofJson_eq_valid_iff fun _ _ _ => truth_ofJson_eq_valid_iff

/-- A member with two names passes exactly if the one that counts is read as what it should be. -/
theorem aliasedField_ofJson_eq_valid_iff {first second : String} {members : Keyed Json}
    {part : Option α} (agree : ∀ data part, check (.ofJson data) = .valid part ↔ reads data part) :
    aliasedField first second check (Value.ofJsonMembers members) = .valid part ↔
      Json.IsOptional reads ((Keyed.get? first members).or (Keyed.get? second members)) part := by
  unfold aliasedField
  rw [Value.entry?_ofJsonMembers]
  cases found : Keyed.get? first members with
  | none =>
      change optionalField second check _ = _ ↔ _
      rw [optionalField_ofJson_eq_valid_iff fun data _ => agree data, Option.none_or]
  | some data =>
      change optionalField first check _ = _ ↔ _
      rw [optionalField_ofJson_eq_valid_iff fun data _ => agree data, found, Option.some_or]

/-- A list passes exactly if it is read item by item. -/
theorem listOf_ofJson_eq_valid_iff {data : Json} {parts : List α}
    (agree : ∀ items, data = .list items → ∀ item ∈ items,
      ∀ part, check (.ofJson item) = .valid part ↔ reads item part) :
    listOf check (.ofJson data) = .valid parts ↔ Json.IsListOf reads data parts := by
  cases data with
  | list items =>
      change eachFrom check 0 (Value.ofJsonItems items) = _ ↔ _
      rw [Value.ofJsonItems_eq_map, eachFrom_eq_valid_iff, List.forall₂_map_left_iff]
      rw [forall₂_congr_of_mem (agree items rfl)]
      constructor
      · exact .items
      · rintro ⟨all⟩
        exact all
  | _ =>
      constructor
      · intro passed
        cases passed
      · rintro ⟨⟩

end Check

/-! ### Objects -/

/-- A member of an object is smaller than the object. -/
theorem Json.sizeOf_lt_of_get? {name : String} {members : Keyed Json} {data : Json}
    (found : Keyed.get? name members = some data) : sizeOf data < sizeOf (Json.object members) := by
  have inside : sizeOf data < sizeOf members := by
    induction members with
    | nil => cases found
    | cons member members inductionHypothesis =>
        obtain ⟨known, value⟩ := member
        by_cases hit : known = name
        · simp only [Keyed.get?, hit, if_true, Option.some.injEq] at found
          subst found
          simp +arith
        · simp only [Keyed.get?, hit, if_false] at found
          have smaller := inductionHypothesis found
          simp only [List.cons.sizeOf_spec]
          omega
  rw [Json.object.sizeOf_spec]
  omega

/-- An item of a list is smaller than the list. -/
theorem Json.sizeOf_lt_of_mem {items : List Json} {item : Json} (present : item ∈ items) :
    sizeOf item < sizeOf (Json.list items) := by
  have inside := List.sizeOf_lt_of_mem present
  rw [Json.list.sizeOf_spec]
  omega

/-- Exactly the objects that describe an account pass as it. -/
theorem Account.check_ofJson_eq_valid_iff {data : Json} {account : Account} :
    check (.ofJson data) = .valid account ↔ data.DescribesAccount account := by
  cases data with
  | object members =>
      change (Account.mk <$> _ <*> _ <*> _ <*> _ : Check Account) = _ ↔ _
      constructor
      · intro passed
        simp only [Check.seq_eq_valid_iff, Check.map_eq_valid_iff] at passed
        obtain ⟨_, username, ⟨_, email, ⟨_, name, ⟨accountId, first, rfl⟩, second, rfl⟩, third,
          rfl⟩, fourth, rfl⟩ := passed
        constructor
        case accountId =>
            exact (Check.aliasedField_ofJson_eq_valid_iff fun _ _ =>
              Check.whole_ofJson_eq_valid_iff).1 first
        case name => exact Check.textField_eq_valid_iff.1 second
        case email => exact Check.textField_eq_valid_iff.1 third
        case username => exact Check.textField_eq_valid_iff.1 fourth
      · rintro ⟨accountId, name, email, username⟩
        obtain ⟨_, _, _, _⟩ := account
        iterate 3 apply Check.seq_eq_valid
        · have first := (Check.aliasedField_ofJson_eq_valid_iff fun _ _ =>
            Check.whole_ofJson_eq_valid_iff).2 accountId
          exact Check.map_eq_valid_iff.2 ⟨_, first, rfl⟩
        · exact Check.textField_eq_valid_iff.2 name
        · exact Check.textField_eq_valid_iff.2 email
        · exact Check.textField_eq_valid_iff.2 username
  | _ =>
      constructor
      · intro passed
        cases passed
      · rintro ⟨⟩

/-- Exactly the objects that describe group options pass as them. -/
theorem GroupOptions.check_ofJson_eq_valid_iff {data : Json} {options : GroupOptions} :
    check (.ofJson data) = .valid options ↔ data.DescribesOptions options := by
  cases data with
  | object members =>
      change GroupOptions.mk <$> _ = _ ↔ _
      rw [Check.map_eq_valid_iff]
      constructor
      · rintro ⟨visibleToAll, passed, rfl⟩
        exact .object (Check.truthField_eq_valid_iff.1 passed)
      · rintro ⟨visibleToAll⟩
        exact ⟨_, Check.truthField_eq_valid_iff.2 visibleToAll, rfl⟩
  | _ =>
      constructor
      · intro passed
        cases passed
      · rintro ⟨⟩

namespace Group

/-- The fields of a group pass exactly if the object describes it, as far as that is known of the
groups that it includes. -/
theorem ofEntries_ofJsonMembers_eq_valid_iff {members : Keyed Json} {group : Group}
    {included : Check (Option (List Group))}
    (agree : ∀ part, included = .valid part ↔
      Json.IsOptional (Json.IsListOf Json.DescribesGroup) (Keyed.get? "includes" members) part) :
    ofEntries (Value.ofJsonMembers members) included = .valid group ↔
      (Json.object members).DescribesGroup group := by
  have optionsAgree : ∀ part,
      Check.optionalField "options" GroupOptions.check (Value.ofJsonMembers members)
        = .valid part ↔
      Json.IsOptional Json.DescribesOptions (Keyed.get? "options" members) part := by
    intro part
    apply Check.optionalField_ofJson_eq_valid_iff
    intro _ _ _
    exact GroupOptions.check_ofJson_eq_valid_iff
  have moreAgrees : ∀ part,
      Check.aliasedField "_more_groups" "more_groups" Check.truth (Value.ofJsonMembers members)
        = .valid part ↔
      Json.IsOptional Json.IsTruth
        ((Keyed.get? "_more_groups" members).or (Keyed.get? "more_groups" members)) part := by
    intro part
    apply Check.aliasedField_ofJson_eq_valid_iff
    intro _ _
    exact Check.truth_ofJson_eq_valid_iff
  have accountsAgree : ∀ part,
      Check.optionalField "members" (Check.listOf Account.check) (Value.ofJsonMembers members)
        = .valid part ↔
      Json.IsOptional (Json.IsListOf Json.DescribesAccount) (Keyed.get? "members" members)
        part := by
    intro part
    apply Check.optionalField_ofJson_eq_valid_iff
    intro _ _ _
    apply Check.listOf_ofJson_eq_valid_iff
    intro _ _ _ _ _
    exact Account.check_ofJson_eq_valid_iff
  unfold ofEntries
  constructor
  · intro passed
    simp only [Check.seq_eq_valid_iff, Check.map_eq_valid_iff] at passed
    obtain ⟨_, includes, ⟨_, accounts, ⟨_, more, ⟨_, created, ⟨_, ownerId, ⟨_, owner, ⟨_, number,
      ⟨_, description, ⟨_, options, ⟨_, url, ⟨_, name, ⟨id, first, rfl⟩, second, rfl⟩, third,
      rfl⟩, fourth, rfl⟩, fifth, rfl⟩, sixth, rfl⟩, seventh, rfl⟩, eighth, rfl⟩, ninth, rfl⟩,
      tenth, rfl⟩, eleventh, rfl⟩, twelfth, rfl⟩ := passed
    constructor
    case id => exact Check.textField_eq_valid_iff.1 first
    case name => exact Check.textField_eq_valid_iff.1 second
    case url => exact Check.textField_eq_valid_iff.1 third
    case options => exact (optionsAgree _).1 fourth
    case description => exact Check.textField_eq_valid_iff.1 fifth
    case groupId => exact Check.wholeField_eq_valid_iff.1 sixth
    case owner => exact Check.textField_eq_valid_iff.1 seventh
    case ownerId => exact Check.textField_eq_valid_iff.1 eighth
    case createdOn => exact Check.textField_eq_valid_iff.1 ninth
    case moreGroups => exact (moreAgrees _).1 tenth
    case accounts => exact (accountsAgree _).1 eleventh
    case includes => exact (agree _).1 twelfth
  · rintro ⟨id, name, url, options, description, groupId, owner, ownerId, createdOn, moreGroups,
      accounts, includes⟩
    obtain ⟨_, _, _, _, _, _, _, _, _, _, _, _⟩ := group
    iterate 11 apply Check.seq_eq_valid
    · exact Check.map_eq_valid_iff.2 ⟨_, Check.textField_eq_valid_iff.2 id, rfl⟩
    · exact Check.textField_eq_valid_iff.2 name
    · exact Check.textField_eq_valid_iff.2 url
    · exact (optionsAgree _).2 options
    · exact Check.textField_eq_valid_iff.2 description
    · exact Check.wholeField_eq_valid_iff.2 groupId
    · exact Check.textField_eq_valid_iff.2 owner
    · exact Check.textField_eq_valid_iff.2 ownerId
    · exact Check.textField_eq_valid_iff.2 createdOn
    · exact (moreAgrees _).2 moreGroups
    · exact (accountsAgree _).2 accounts
    · exact (agree _).2 includes

/-- Exactly the objects that describe a group pass as it.  The groups that it includes lie deeper in
the object, so the same is known of them. -/
theorem check_ofJson_eq_valid_iff : ∀ (data : Json) (group : Group),
    check (.ofJson data) = .valid group ↔ data.DescribesGroup group
  | .object members, group => by
      change ofEntries (Value.ofJsonMembers members)
        ((checkIncludes (Value.ofJsonMembers members)).within (.field includesName)) = _ ↔ _
      rw [checkIncludes_eq_optionalField]
      apply ofEntries_ofJsonMembers_eq_valid_iff
      intro part
      apply Check.optionalField_ofJson_eq_valid_iff
      intro data found part
      apply Check.listOf_ofJson_eq_valid_iff
      rintro items rfl item present part
      have inside := Json.sizeOf_lt_of_get? found
      have smaller := Json.sizeOf_lt_of_mem present
      exact check_ofJson_eq_valid_iff item part
  | .null, _ | .bool _, _ | .int _, _ | .float _, _ | .text _, _ | .list _, _ => by
      constructor
      · intro passed
        cases passed
      · rintro ⟨⟩
termination_by data => sizeOf data
decreasing_by exact Nat.lt_trans smaller inside

end Group

end ReviewGroups
