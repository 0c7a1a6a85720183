/-
Module: ReviewGroups.Proofs.FilterState
Purpose: The filter that a request stands for: which values it takes over, and when there is none.
  The values that were given are of any kind; the filter carries what they are checked to be, and
  its options in the order of declaration, each once. `Carries` says so without naming the check,
  and there is a filter exactly if one carries the request.
Trusted boundary: none
Main exports: ListRequest.Carries, ListRequest.filter_eq_ok_iff, QueryRequest.Carries,
  QueryRequest.filter_eq_ok_iff, Failure.IsInvalid
-/
import ReviewGroups.Filter.QueryRequest
import ReviewGroups.Proofs.CheckResult

namespace ReviewGroups

namespace Check

variable {α : Type}

private theorem tupleOf_items_eq_valid_iff {check : Value → Check α} {container : Container}
    {values : List Value} {results : List α} :
    tupleOf check (.items container values) = .valid results ↔
      List.Forall₂ (fun value result => check value = .valid result) values results :=
  eachFrom_eq_valid_iff

private theorem tupleOf_toTuple_eq_valid_iff {options results : List DisplayOption} :
    tupleOf option (DisplayOption.toTuple options) = .valid results ↔ options = results := by
  unfold DisplayOption.toTuple
  rw [tupleOf_items_eq_valid_iff, List.forall₂_map_left_iff]
  have same : (fun o result => option (.option o) = .valid result) = Eq := by
    funext o result
    simp [option]
  rw [same, List.forall₂_eq_eq_eq]

/-- A field that is there passes exactly if its value does. -/
theorem field_eq_valid_iff {name : String} {default result : α} {check : Value → Check α}
    {entries : Keyed Value} {value : Value} (found : Keyed.get? name entries = some value) :
    field name default check (entries.map fun entry => (.text entry.1, entry.2)) = .valid result ↔
      check value = .valid result := by
  have there :
      Value.entry? name (entries.map fun entry => (.text entry.1, entry.2)) = some value := by
    rw [← found]
    clear found
    induction entries with
    | nil => rfl
    | cons entry entries inductionHypothesis =>
        simp only [List.map_cons, Value.entry?, Keyed.get?, inductionHypothesis]
  unfold field
  rw [there]
  exact within_eq_valid_iff

end Check

/-- The failure says that values that were stored do not pass the check of a record. -/
def Failure.IsInvalid (schema : Schema) : Failure → Prop
  | .invalid found _ => found = schema
  | _ => False

/-- A check that is not passed is reported as such. -/
theorem Failure.isInvalid_of_ofCheck {α : Type} {schema : Schema} {check : Check α}
    {failure : Failure} (refused : ofCheck schema check = .error failure) :
    failure.IsInvalid schema := by
  cases check with
  | valid value => cases refused
  | invalid issues =>
      cases refused
      rfl

theorem Failure.ofCheck_eq_ok_iff {α : Type} {schema : Schema} {check : Check α} {value : α} :
    ofCheck schema check = .ok value ↔ check = .valid value := by
  cases check <;> simp [ofCheck]

namespace ListRequest

/-- A filter carries the values of a request, each as what its check takes it for. -/
structure Carries (request : ListRequest) (filter : ListFilter) : Prop where
  options : request.options = filter.options
  projects :
    List.Forall₂ (fun value text => Check.text value = .valid text) request.projects filter.projects
  groups :
    List.Forall₂ (fun value text => Check.text value = .valid text) request.groups filter.groups
  visibleToAll : Check.truth request.visibleToAll = .valid filter.visibleToAll
  user : Check.optional Check.text request.user = .valid filter.user
  owned : Check.truth request.owned = .valid filter.owned
  limit : Check.whole request.limit = .valid filter.limit
  start : Check.whole request.start = .valid filter.start
  substring : Check.optional Check.text request.substring = .valid filter.substring
  suggest : Check.optional Check.text request.suggest = .valid filter.suggest

/-- A request stands for a filter exactly if the filter carries its values. -/
theorem filter_eq_ok_iff {request : ListRequest} {filter : ListFilter} :
    request.filter = .ok filter ↔ request.Carries filter := by
  unfold ListRequest.filter
  rw [Failure.ofCheck_eq_ok_iff]
  unfold ListFilter.check
  constructor
  · intro passed
    simp only [Check.seq_eq_valid_iff, Check.map_eq_valid_iff] at passed
    obtain ⟨_, suggest, ⟨_, substring, ⟨_, start, ⟨_, limit, ⟨_, owned, ⟨_, user, ⟨_, visible,
      ⟨_, groups, ⟨_, projects, ⟨options, first, rfl⟩, second, rfl⟩, third, rfl⟩, fourth, rfl⟩,
      fifth, rfl⟩, sixth, rfl⟩, seventh, rfl⟩, eighth, rfl⟩, ninth, rfl⟩, tenth, rfl⟩ := passed
    exact
      { options := Check.tupleOf_toTuple_eq_valid_iff.1 ((Check.field_eq_valid_iff rfl).1 first)
        projects := Check.tupleOf_items_eq_valid_iff.1 ((Check.field_eq_valid_iff rfl).1 second)
        groups := Check.tupleOf_items_eq_valid_iff.1 ((Check.field_eq_valid_iff rfl).1 third)
        visibleToAll := (Check.field_eq_valid_iff rfl).1 fourth
        user := (Check.field_eq_valid_iff rfl).1 fifth
        owned := (Check.field_eq_valid_iff rfl).1 sixth
        limit := (Check.field_eq_valid_iff rfl).1 seventh
        start := (Check.field_eq_valid_iff rfl).1 eighth
        substring := (Check.field_eq_valid_iff rfl).1 ninth
        suggest := (Check.field_eq_valid_iff rfl).1 tenth }
  · intro carries
    obtain ⟨options, projects, groups, visible, user, owned, limit, start, substring, suggest⟩ :=
      filter
    iterate 9 apply Check.seq_eq_valid
    · have first := Check.tupleOf_toTuple_eq_valid_iff.2 carries.options
      exact Check.map_eq_valid_iff.2 ⟨_, (Check.field_eq_valid_iff rfl).2 first, rfl⟩
    · exact (Check.field_eq_valid_iff rfl).2 (Check.tupleOf_items_eq_valid_iff.2 carries.projects)
    · exact (Check.field_eq_valid_iff rfl).2 (Check.tupleOf_items_eq_valid_iff.2 carries.groups)
    · exact (Check.field_eq_valid_iff rfl).2 carries.visibleToAll
    · exact (Check.field_eq_valid_iff rfl).2 carries.user
    · exact (Check.field_eq_valid_iff rfl).2 carries.owned
    · exact (Check.field_eq_valid_iff rfl).2 carries.limit
    · exact (Check.field_eq_valid_iff rfl).2 carries.start
    · exact (Check.field_eq_valid_iff rfl).2 carries.substring
    · exact (Check.field_eq_valid_iff rfl).2 carries.suggest

theorem filter_error {request : ListRequest} {failure : Failure}
    (refused : request.filter = .error failure) : failure.IsInvalid .listFilter :=
  Failure.isInvalid_of_ofCheck refused

end ListRequest

namespace QueryRequest

/-- A filter carries the values of a request, each as what its check takes it for. -/
structure Carries (request : QueryRequest) (filter : QueryFilter) : Prop where
  query : Check.optional Check.text request.query = .valid filter.query
  limit : Check.whole request.limit = .valid filter.limit
  start : Check.whole request.start = .valid filter.start
  options : request.options = filter.options

/-- A request stands for a filter exactly if the filter carries its values. -/
theorem filter_eq_ok_iff {request : QueryRequest} {filter : QueryFilter} :
    request.filter = .ok filter ↔ request.Carries filter := by
  unfold QueryRequest.filter
  rw [Failure.ofCheck_eq_ok_iff]
  unfold QueryFilter.check
  constructor
  · intro passed
    simp only [Check.seq_eq_valid_iff, Check.map_eq_valid_iff] at passed
    obtain ⟨_, options, ⟨_, start, ⟨_, limit, ⟨query, first, rfl⟩, second, rfl⟩, third, rfl⟩,
      fourth, rfl⟩ := passed
    exact
      { query := (Check.field_eq_valid_iff rfl).1 first
        limit := (Check.field_eq_valid_iff rfl).1 second
        start := (Check.field_eq_valid_iff rfl).1 third
        options := Check.tupleOf_toTuple_eq_valid_iff.1 ((Check.field_eq_valid_iff rfl).1 fourth) }
  · intro carries
    obtain ⟨query, limit, start, options⟩ := filter
    iterate 3 apply Check.seq_eq_valid
    · exact Check.map_eq_valid_iff.2 ⟨_, (Check.field_eq_valid_iff rfl).2 carries.query, rfl⟩
    · exact (Check.field_eq_valid_iff rfl).2 carries.limit
    · exact (Check.field_eq_valid_iff rfl).2 carries.start
    · have fourth := Check.tupleOf_toTuple_eq_valid_iff.2 carries.options
      exact (Check.field_eq_valid_iff rfl).2 fourth

theorem filter_error {request : QueryRequest} {failure : Failure}
    (refused : request.filter = .error failure) : failure.IsInvalid .queryFilter :=
  Failure.isInvalid_of_ofCheck refused

end QueryRequest

end ReviewGroups
