/-
Module: ReviewGroups.Proofs.RecordBody
Purpose: The inputs of changes are read back from the bodies that they are sent as: leaving out what
  is not set loses nothing. Each input has a reader for its own body, put together from readers of
  single fields. `IsExact` collects what a value needs so that its text says all of it; it also
  makes a body one that can be written at all.
Trusted boundary: none
Main exports: Json.kept, Json.member?_omitNulls, Json.IsExact.isFinite, Json.IsExact.omitNulls,
  Json.textAt?, Json.truthAt?, Json.textsAt?, GroupInput.ofBody_body, Record.IsInput,
  Record.IsInput.isExact_body
-/
import ReviewGroups.Proofs.WrittenJson
import ReviewGroups.Record

namespace ReviewGroups

namespace Json

variable {α : Type} {key : String} {members : List (String × Json)}

/-! ### Members that are left out -/

/-- What is left of the value of a member, if the member is not left out. -/
def kept : Json → Option Json
  | .null => none
  | value => some value.omitNulls

/-- Items are kept one by one. -/
theorem omitNullsInItems_eq_map (items : List Json) :
    omitNullsInItems items = items.map omitNulls := by
  induction items with
  | nil => rfl
  | cons item items inductionHypothesis => rw [omitNullsInItems, inductionHypothesis, List.map_cons]

private theorem omitNullsInMembers_cons (name : String) (value : Json)
    (members : List (String × Json)) :
    omitNullsInMembers ((name, value) :: members) =
      (value.kept.map fun value => (name, value)).toList ++ omitNullsInMembers members := by
  cases value <;> rfl

private theorem keys_omitNullsInMembers_sublist (members : List (String × Json)) :
    (Keyed.keys (omitNullsInMembers members)).Sublist (Keyed.keys members) := by
  induction members with
  | nil => exact List.Sublist.refl _
  | cons member members inductionHypothesis =>
      obtain ⟨name, value⟩ := member
      rw [omitNullsInMembers_cons]
      cases value.kept with
      | none => exact inductionHypothesis.cons name
      | some value => exact inductionHypothesis.cons_cons name

/-- A member that is left is what is left of one that was there. -/
theorem exists_of_mem_omitNullsInMembers {member : String × Json}
    (present : member ∈ omitNullsInMembers members) :
    ∃ value, (member.1, value) ∈ members ∧ value.kept = some member.2 := by
  induction members with
  | nil => cases present
  | cons first members inductionHypothesis =>
      obtain ⟨name, value⟩ := first
      rw [omitNullsInMembers_cons, List.mem_append, Option.mem_toList,
        Option.map_eq_some_iff] at present
      rcases present with ⟨left, kept, rfl⟩ | later
      · exact ⟨value, List.mem_cons_self, kept⟩
      · obtain ⟨value, there, kept⟩ := inductionHypothesis later
        exact ⟨value, List.mem_cons_of_mem _ there, kept⟩

/-- The value under a key is what is left of the one that was there, if no name stands twice. -/
theorem member?_omitNulls (distinct : (Keyed.keys members).Nodup) :
    (omitNulls (.object members)).member? key = (Keyed.get? key members).bind kept := by
  change Keyed.get? key (omitNullsInMembers members) = _
  induction members with
  | nil => rfl
  | cons member members inductionHypothesis =>
      obtain ⟨name, value⟩ := member
      rw [Keyed.keys, List.map_cons, List.nodup_cons] at distinct
      rw [omitNullsInMembers_cons, Keyed.get?]
      by_cases hit : name = key
      · subst hit
        rw [if_pos rfl, Option.bind_some]
        cases kept value with
        -- Here it matters that no name stands twice: a later member would take the place.
        | none =>
            have unknown : Keyed.get? name members = none :=
              Keyed.get?_eq_none_of_not_mem distinct.1
            exact (inductionHypothesis distinct.2).trans (by rw [unknown, Option.bind_none])
        | some left => simp [Keyed.get?]
      · rw [if_neg hit, ← inductionHypothesis distinct.2]
        cases kept value with
        | none => rfl
        | some left => simp [Keyed.get?, hit]

/-! ### Exactness -/

private theorem itemsAll_of_forall {test : Json → Bool} {items : List Json}
    (each : ∀ item ∈ items, item.all test = true) : itemsAll test items = true := by
  induction items with
  | nil => rfl
  | cons item items inductionHypothesis =>
      obtain ⟨first, others⟩ := List.forall_mem_cons.1 each
      rw [itemsAll, first, inductionHypothesis others, Bool.and_self]

private theorem membersAll_of_forall {test : Json → Bool} {members : List (String × Json)}
    (each : ∀ member ∈ members, member.2.all test = true) : membersAll test members = true := by
  induction members with
  | nil => rfl
  | cons member members inductionHypothesis =>
      obtain ⟨first, others⟩ := List.forall_mem_cons.1 each
      rw [membersAll, first, inductionHypothesis others, Bool.and_self]

/-- What holds of every exact value holds of everything in one. -/
theorem IsExact.all {test : Json → Bool} (passes : ∀ part : Json, part.IsExact → test part = true)
    {value : Json} (exact : value.IsExact) : value.all test = true := by
  induction exact with
  | null => exact passes _ .null
  | bool b => exact passes _ (.bool b)
  | int short => exact passes _ (.int short)
  | text s => exact passes _ (.text s)
  | list _ inductionHypothesis => exact itemsAll_of_forall inductionHypothesis
  | object _ _ inductionHypothesis => exact membersAll_of_forall inductionHypothesis

/-- An exact value has no number that is not finite. -/
theorem IsExact.isFinite {value : Json} (exact : value.IsExact) : value.isFinite = true := by
  refine exact.all fun part exact => ?_
  cases exact <;> rfl

/-- An exact value has no whole number that is too long to be written. -/
theorem IsExact.isWritable {value : Json} (exact : value.IsExact) : value.isWritable = true := by
  refine exact.all fun part exact => ?_
  cases exact with
  | int short => exact decide_eq_true short
  | _ => rfl

/-- What is left of an exact value is exact. -/
theorem IsExact.omitNulls {value : Json} (exact : value.IsExact) : value.omitNulls.IsExact := by
  induction exact with
  | null => exact .null
  | bool b => exact .bool b
  | int short => exact .int short
  | text s => exact .text s
  | @list items each inductionHypothesis =>
      rw [Json.omitNulls, omitNullsInItems_eq_map]
      refine .list fun item present => ?_
      obtain ⟨before, there, rfl⟩ := List.mem_map.1 present
      exact inductionHypothesis before there
  | @object members distinct each inductionHypothesis =>
      refine .object (distinct.sublist (keys_omitNullsInMembers_sublist members)) ?_
      intro member present
      obtain ⟨value, there, kept⟩ := exists_of_mem_omitNullsInMembers present
      have left : value.omitNulls = member.2 := by
        cases value <;> first | exact Option.some.inj kept | cases kept
      exact left ▸ inductionHypothesis _ there

/-- A part that may be missing is exact, if it is wherever it is there. -/
theorem isExact_ofOption {toJson : α → Json} (exact : ∀ a, (toJson a).IsExact) (part : Option α) :
    (ofOption toJson part).IsExact := by
  cases part with
  | none => exact .null
  | some a => exact exact a

theorem isExact_ofTexts (texts : List String) : (ofTexts texts).IsExact := by
  refine .list fun item present => ?_
  obtain ⟨s, -, rfl⟩ := List.mem_map.1 present
  exact .text s

/-! ### Reading fields back -/

/-- A text. -/
def text? : Json → Option String
  | .text s => some s
  | _ => none

/-- A truth value. -/
def truth? : Json → Option Bool
  | .bool b => some b
  | _ => none

/-- The texts of a list. -/
def texts? : Json → Option (List String)
  | .list items => items.mapM text?
  | _ => none

/-- The text under a key. -/
def textAt? (key : String) (body : Json) : Option String :=
  (body.member? key).bind text?

/-- The truth value under a key. -/
def truthAt? (key : String) (body : Json) : Option Bool :=
  (body.member? key).bind truth?

/-- The texts under a key. -/
def textsAt? (key : String) (body : Json) : Option (List String) :=
  (body.member? key).bind texts?

private theorem texts?_ofTexts (texts : List String) : (ofTexts texts).texts? = some texts := by
  change (texts.map .text).mapM text? = some texts
  induction texts with
  | nil => rfl
  | cons s texts inductionHypothesis =>
      rw [List.map_cons, List.mapM_cons, inductionHypothesis]
      rfl

private theorem kept_ofTexts (texts : List String) : (ofTexts texts).kept = some
    (ofTexts texts) := by
  have same : texts.map (omitNulls ∘ .text) = texts.map .text :=
    List.map_congr_left fun _ _ => rfl
  change some (Json.list (omitNullsInItems (texts.map .text))) = _
  rw [omitNullsInItems_eq_map, List.map_map, same]
  rfl

private theorem field_omitNulls {toJson : α → Json} {read : Json → Option α} {part : Option α}
    (distinct : (Keyed.keys members).Nodup)
    (found : Keyed.get? key members = some (ofOption toJson part))
    (keeps : ∀ a, (toJson a).kept = some (toJson a)) (reads : ∀ a, read (toJson a) = some a) :
    ((omitNulls (.object members)).member? key).bind read = part := by
  rw [member?_omitNulls distinct, found, Option.bind_some]
  cases part with
  | none => rfl
  | some a => rw [ofOption, keeps, Option.bind_some, reads]

variable {s : Option String} {b : Option Bool} {texts : Option (List String)}

private theorem textAt?_omitNulls (distinct : (Keyed.keys members).Nodup)
    (found : Keyed.get? key members = some (ofOption .text s)) :
    textAt? key (omitNulls (.object members)) = s :=
  field_omitNulls distinct found (fun _ => rfl) fun _ => rfl

private theorem truthAt?_omitNulls (distinct : (Keyed.keys members).Nodup)
    (found : Keyed.get? key members = some (ofOption .bool b)) :
    truthAt? key (omitNulls (.object members)) = b :=
  field_omitNulls distinct found (fun _ => rfl) fun _ => rfl

private theorem textsAt?_omitNulls (distinct : (Keyed.keys members).Nodup)
    (found : Keyed.get? key members = some (ofOption ofTexts texts)) :
    textsAt? key (omitNulls (.object members)) = texts :=
  field_omitNulls distinct found kept_ofTexts texts?_ofTexts

end Json

/-! ### Records -/

open Json

/-- The group to create that a body describes. -/
def GroupInput.ofBody (body : Json) : GroupInput :=
  { name := body.textAt? "name"
    uuid := body.textAt? "uuid"
    description := body.textAt? "description"
    visibleToAll := body.truthAt? "visible_to_all"
    ownerId := body.textAt? "owner_id"
    members := body.textsAt? "members" }

/-- A group to create is read back from the body that it is sent as. -/
theorem GroupInput.ofBody_body (input : GroupInput) :
    GroupInput.ofBody (Record.groupInput input).body = input := by
  have distinct : (Keyed.keys
      [("name", ofOption .text input.name), ("uuid", ofOption .text input.uuid),
        ("description", ofOption .text input.description),
        ("visible_to_all", ofOption .bool input.visibleToAll),
        ("owner_id", ofOption .text input.ownerId),
        ("members", ofOption ofTexts input.members)]).Nodup := by
    simp [Keyed.keys]
  unfold GroupInput.ofBody
  congr 1
  · exact textAt?_omitNulls distinct rfl
  · exact textAt?_omitNulls distinct rfl
  · exact textAt?_omitNulls distinct rfl
  · exact truthAt?_omitNulls distinct rfl
  · exact textAt?_omitNulls distinct rfl
  · exact textsAt?_omitNulls distinct rfl

theorem textAt?_nameInput (input : NameInput) :
    (Record.nameInput input).body.textAt? "name" = some input.name :=
  textAt?_omitNulls (by simp [Keyed.keys]) rfl

theorem textAt?_descriptionInput (input : DescriptionInput) :
    (Record.descriptionInput input).body.textAt? "description" = input.description :=
  textAt?_omitNulls (by simp [Keyed.keys]) rfl

theorem textAt?_ownerInput (input : OwnerInput) :
    (Record.ownerInput input).body.textAt? "owner" = some input.owner :=
  textAt?_omitNulls (by simp [Keyed.keys]) rfl

theorem truthAt?_groupOptionsInput (input : GroupOptionsInput) :
    (Record.groupOptionsInput input).body.truthAt? "visible_to_all" = input.visibleToAll :=
  truthAt?_omitNulls (by simp [Keyed.keys]) rfl

theorem textsAt?_membersInput (input : MembersInput) :
    (Record.membersInput input).body.textsAt? "members" = some input.members :=
  textsAt?_omitNulls (by simp [Keyed.keys]) rfl

theorem textsAt?_groupsInput (input : GroupsInput) :
    (Record.groupsInput input).body.textsAt? "groups" = some input.groups :=
  textsAt?_omitNulls (by simp [Keyed.keys]) rfl

/-- A record is the input of a change. -/
def Record.IsInput : Record → Prop
  | .groupInput _ | .groupOptionsInput _ | .nameInput _ | .descriptionInput _ | .ownerInput _
  | .membersInput _ | .groupsInput _ => True
  | _ => False

/-- The input of a change is sent as an exact value. -/
theorem Record.IsInput.isExact_body {record : Record} (input : record.IsInput) :
    record.body.IsExact := by
  apply IsExact.omitNulls
  cases record
  case groupInput | groupOptionsInput | nameInput | descriptionInput | ownerInput | membersInput
    | groupsInput =>
      refine .object (by simp [Keyed.keys]) ?_
      simp [isExact_ofOption, IsExact.text, IsExact.bool, isExact_ofTexts]
  all_goals exact input.elim

end ReviewGroups
