/-
Module: ReviewGroups.Proofs.PayloadShape
Purpose: Which answers of the server have the shape that is asked for, and that all others are
  reported as malformed. For each kind of payload there are two lemmas, one for the answers that are
  taken in and one for the report about all others; together they leave nothing open.
Trusted boundary: none
Main exports: Failure.IsMalformed, Json.IsGroup, Json.isGroup_iff_describesGroup,
  Payload.group_eq_ok_iff, Payload.identifiedGroup_eq_ok_iff, Payload.groups_eq_ok_iff,
  Payload.groupMap_eq_ok_iff, Payload.accounts_eq_ok_iff, Http.decodeJson_eq_ok_iff
-/
import ReviewGroups.Http.Delivery
import ReviewGroups.Proofs.GroupShape
import ReviewGroups.Proofs.Result
import ReviewGroups.Rest.Payload

namespace ReviewGroups

/-- The failure says that an answer does not have the right shape, and no other failure led to
it. -/
def Failure.IsMalformed : Failure → Prop
  | .api error none => error.kind = .malformed
  | _ => False

/-- A JSON value is an object that is taken as `group` when it is checked. -/
def Json.IsGroup (data : Json) (group : Group) : Prop :=
  (∃ members, data = .object members) ∧ Group.check (.ofJson data) = .valid group

/-- A value is taken as a group exactly if it describes it. -/
theorem Json.isGroup_iff_describesGroup {data : Json} {group : Group} :
    data.IsGroup group ↔ data.DescribesGroup group := by
  unfold Json.IsGroup
  rw [Group.check_ofJson_eq_valid_iff]
  constructor
  · exact And.right
  · intro describes
    refine ⟨?_, describes⟩
    cases describes with
    | object => exact ⟨_, rfl⟩

/-- A group has an identifier, which is not empty. -/
def Group.IsIdentified (group : Group) : Prop :=
  ∃ id, group.id = some id ∧ id ≠ ""

namespace Payload

/-- A value is taken as a group exactly if it is an object that passes the check. -/
theorem group_eq_ok_iff {data : Json} {checked : Group} :
    group data = .ok checked ↔ data.IsGroup checked := by
  unfold group Json.IsGroup
  cases data with
  | object members =>
      cases Group.check (.ofJson (.object members)) <;> simp
  | _ => simp

/-- A value that is not taken as a group is reported as malformed. -/
theorem group_error {data : Json} {failure : Failure} (refused : group data = .error failure) :
    failure.IsMalformed := by
  unfold group at refused
  split at refused
  · split at refused
    · cases refused
    · cases refused
      rfl
  · cases refused
    rfl

/-- A value is taken as a group with an identifier exactly if it describes one that has it. -/
theorem identifiedGroup_eq_ok_iff {data : Json} {checked : Group} :
    identifiedGroup data = .ok checked ↔ data.DescribesGroup checked ∧ checked.IsIdentified := by
  unfold identifiedGroup
  rw [Result.bind_eq_ok_iff, ← Json.isGroup_iff_describesGroup, ← group_eq_ok_iff]
  constructor
  · rintro ⟨group, taken, identified⟩
    split at identified
    next => cases identified
    next known =>
      cases identified
      refine ⟨taken, ?_⟩
      cases some : checked.id with
      | none => exact absurd (by simp [some]) known
      | some id => exact ⟨id, some, fun empty => known (by simp [some, empty])⟩
  · rintro ⟨taken, id, some, notEmpty⟩
    refine ⟨checked, taken, ?_⟩
    rw [some, Option.getD_some, if_neg (by simpa using notEmpty)]
    rfl

/-- A value that is not taken as a group with an identifier is reported as malformed. -/
theorem identifiedGroup_error {data : Json} {failure : Failure}
    (refused : identifiedGroup data = .error failure) : failure.IsMalformed := by
  rcases Result.bind_eq_error_iff.1 refused with unread | ⟨checked, -, refused⟩
  · exact group_error unread
  · split at refused
    · cases refused
      rfl
    · cases refused

private theorem mapM_eq_ok_iff {α : Type} {take : Json → Except Failure α} {reads : Json → α → Prop}
    {items : List Json} {parts : List α}
    (agree : ∀ item part, take item = .ok part ↔ reads item part) :
    items.mapM take = .ok parts ↔ Json.IsListOf reads (.list items) parts := by
  rw [Result.mapM_eq_ok_iff, forall₂_congr_of_mem fun item _ => agree item]
  constructor
  · exact .items
  · rintro ⟨all⟩
    exact all

private theorem mapM_error {α : Type} {take : Json → Except Failure α} {items : List Json}
    {failure : Failure}
    (reported : ∀ item failure, take item = .error failure → failure.IsMalformed)
    (refused : items.mapM take = .error failure) : failure.IsMalformed := by
  obtain ⟨item, -, refused⟩ := Result.exists_of_mapM_eq_error refused
  exact reported item failure refused

/-- Groups are taken one by one. -/
theorem groupList_eq_mapM (items : List Json) : groupList items = items.mapM group := by
  induction items with
  | nil => rfl
  | cons item items inductionHypothesis =>
      rw [List.mapM_cons, ← inductionHypothesis]
      rfl

/-- A value is taken as groups exactly if it is a list of objects that describe them. -/
theorem groups_eq_ok_iff {data : Json} {checked : List Group} :
    groups data = .ok checked ↔ Json.IsListOf Json.DescribesGroup data checked := by
  cases data with
  | list items =>
      change groupList items = _ ↔ _
      rw [groupList_eq_mapM]
      exact mapM_eq_ok_iff fun _ _ => group_eq_ok_iff.trans Json.isGroup_iff_describesGroup
  | _ =>
      constructor
      · intro taken
        cases taken
      · rintro ⟨⟩

/-- A value that is not taken as groups is reported as malformed. -/
theorem groups_error {data : Json} {failure : Failure} (refused : groups data = .error failure) :
    failure.IsMalformed := by
  unfold groups at refused
  split at refused
  next items =>
    rw [groupList_eq_mapM] at refused
    exact mapM_error (fun _ _ => group_error) refused
  next =>
    cases refused
    rfl

private theorem account_eq_ok_iff {data : Json} {checked : Account} :
    account data = .ok checked ↔ data.DescribesAccount checked := by
  rw [← Account.check_ofJson_eq_valid_iff]
  unfold account
  cases Account.check (.ofJson data) <;> simp

private theorem account_error {data : Json} {failure : Failure}
    (refused : account data = .error failure) :
    failure.IsMalformed := by
  unfold account at refused
  split at refused
  · cases refused
  · cases refused
    rfl

/-- Accounts are taken one by one. -/
theorem accountList_eq_mapM (items : List Json) : accountList items = items.mapM account := by
  induction items with
  | nil => rfl
  | cons item items inductionHypothesis =>
      rw [List.mapM_cons, ← inductionHypothesis]
      rfl

/-- A value is taken as accounts exactly if it is a list of objects that describe them. -/
theorem accounts_eq_ok_iff {data : Json} {checked : List Account} :
    accounts data = .ok checked ↔ Json.IsListOf Json.DescribesAccount data checked := by
  cases data with
  | list items =>
      change accountList items = _ ↔ _
      rw [accountList_eq_mapM]
      exact mapM_eq_ok_iff fun _ _ => account_eq_ok_iff
  | _ =>
      constructor
      · intro taken
        cases taken
      · rintro ⟨⟩

/-- A value that is not taken as accounts is reported as malformed. -/
theorem accounts_error {data : Json} {failure : Failure}
    (refused : accounts data = .error failure) : failure.IsMalformed := by
  unfold accounts at refused
  split at refused
  next items =>
    rw [accountList_eq_mapM] at refused
    exact mapM_error (fun _ _ => account_error) refused
  next =>
    cases refused
    rfl

/-- Members are taken as groups exactly if each value is, and each group keeps its name. -/
theorem groupMembers_eq_ok_iff {members : Keyed Json} {groups : Keyed Group} :
    groupMembers members = .ok groups ↔
      List.Forall₂ (fun member entry => member.1 = entry.1 ∧ member.2.IsGroup entry.2)
        members groups := by
  induction members generalizing groups with
  | nil => cases groups <;> simp [groupMembers]
  | cons member members inductionHypothesis =>
      obtain ⟨name, value⟩ := member
      constructor
      · intro taken
        obtain ⟨checked, first, taken⟩ := Result.bind_eq_ok_iff.1 taken
        obtain ⟨rest, others, taken⟩ := Result.bind_eq_ok_iff.1 taken
        cases taken
        exact .cons ⟨rfl, group_eq_ok_iff.1 first⟩ (inductionHypothesis.1 others)
      · rintro (_ | ⟨⟨sameName, isGroup⟩, rest⟩)
        cases sameName
        exact Result.bind_eq_ok_iff.2 ⟨_, group_eq_ok_iff.2 isGroup,
          Result.bind_eq_ok_iff.2 ⟨_, inductionHypothesis.2 rest, rfl⟩⟩

private theorem groupMembers_error {members : Keyed Json} {failure : Failure}
    (refused : groupMembers members = .error failure) : failure.IsMalformed := by
  induction members with
  | nil => cases refused
  | cons member members inductionHypothesis =>
      obtain ⟨name, value⟩ := member
      rcases Result.bind_eq_error_iff.1 refused with first | ⟨checked, -, refused⟩
      · exact group_error first
      · rcases Result.bind_eq_error_iff.1 refused with others | ⟨rest, -, refused⟩
        · exact inductionHypothesis others
        · cases refused

/-- A value is taken as groups by name exactly if it is an object of group objects. -/
theorem groupMap_eq_ok_iff {data : Json} {groups : Keyed Group} :
    groupMap data = .ok groups ↔
      ∃ members, data = .object members ∧
        List.Forall₂ (fun member entry => member.1 = entry.1 ∧ member.2.IsGroup entry.2)
          members groups := by
  cases data with
  | object members => simp [groupMap, groupMembers_eq_ok_iff]
  | _ => simp [groupMap]

/-- A value is taken as groups by name exactly if it is an object of objects that describe them. -/
theorem groupMap_eq_ok_iff_isMapOf {data : Json} {groups : Keyed Group} :
    groupMap data = .ok groups ↔ Json.IsMapOf Json.DescribesGroup data groups := by
  rw [groupMap_eq_ok_iff]
  simp only [Json.isGroup_iff_describesGroup]
  constructor
  · rintro ⟨members, rfl, all⟩
    exact .members all
  · rintro ⟨all⟩
    exact ⟨_, rfl, all⟩

/-- A value that is not taken as groups by name is reported as malformed. -/
theorem groupMap_error {data : Json} {failure : Failure}
    (refused : groupMap data = .error failure) : failure.IsMalformed := by
  unfold groupMap at refused
  split at refused
  · exact groupMembers_error refused
  · cases refused
    rfl

end Payload

namespace Http

/-- A text decodes to a value exactly if it is the JSON form of it behind the guard. -/
theorem decodeJson_eq_ok_iff {text : String} {value : Json} :
    decodeJson text = .ok value ↔ Json.parse (dropGuard text) = .ok value := by
  unfold decodeJson
  cases parsed : Json.parse (dropGuard text) <;> simp [parsed]

/-- A text that does not decode is reported as malformed. -/
theorem decodeJson_error {text : String} {failure : Failure}
    (refused : decodeJson text = .error failure) : failure.IsMalformed := by
  unfold decodeJson at refused
  cases parsed : Json.parse (dropGuard text) with
  | ok value => simp [parsed] at refused
  | error fault =>
      simp only [parsed, Except.error.injEq] at refused
      subst refused
      rfl

end Http

end ReviewGroups
