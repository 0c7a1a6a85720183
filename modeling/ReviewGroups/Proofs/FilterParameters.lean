/-
Module: ReviewGroups.Proofs.FilterParameters
Purpose: How much of a filter its parameters tell: all of it but whether a number is zero or below.
  Parameters are grouped by name, each name has a place of its own, and so a list of parameters is
  taken apart name by name; what is lost is exactly what is never written. Filters of listings and
  of queries are compared with each other as well.
Trusted boundary: none
Main exports: Parameter.under, ListFilter.Agrees, QueryFilter.Agrees, ListFilter.HasOnlyOptions,
  QueryFilter.HasOnlyOptions, ListFilter.parameters_eq_iff, QueryFilter.parameters_eq_iff,
  ListFilter.parameters_eq_query_iff, Parameter.parameters_determine_filters
-/
import ReviewGroups.Filter.Parameters
import ReviewGroups.Proofs.NamedOptions

namespace ReviewGroups

namespace Parameter

/-- The parameters of a name. -/
def under (name : String) (parameters : List Parameter) : List Parameter :=
  parameters.filter fun parameter => parameter.1 = name

variable {name other : String}

@[simp] theorem under_append (left right : List Parameter) :
    under name (left ++ right) = under name left ++ under name right :=
  List.filter_append left right

/-- Parameters that all have one name are under that name and under no other. -/
theorem under_of_forall {parameters : List Parameter}
    (named : ∀ parameter ∈ parameters, parameter.1 = other) :
    under name parameters = if other = name then parameters else [] := by
  unfold under
  split
  next same =>
    rw [List.filter_eq_self]
    intro parameter present
    exact decide_eq_true ((named parameter present).trans same)
  next differs =>
    rw [List.filter_eq_nil_iff]
    intro parameter present hit
    exact differs ((named parameter present).symm.trans (of_decide_eq_true hit))

@[simp] theorem under_ofTexts (texts : List String) :
    under name (ofTexts other texts) = if other = name then ofTexts other texts else [] := by
  apply under_of_forall
  simp [ofTexts]

@[simp] theorem under_ofText (text : Option String) :
    under name (ofText other text) = if other = name then ofText other text else [] := by
  apply under_of_forall
  cases text <;> simp [ofText]

@[simp] theorem under_ofFlag (on : Bool) :
    under name (ofFlag other on) = if other = name then ofFlag other on else [] := by
  apply under_of_forall
  cases on <;> simp [ofFlag]

@[simp] theorem under_ofPositive (n : Int) :
    under name (ofPositive other n) = if other = name then ofPositive other n else [] := by
  apply under_of_forall
  by_cases positive : 0 < n <;> simp [ofPositive, positive]

/-! ### What the parameters of one name tell -/

/-- The parameters for texts tell all texts, in order. -/
@[simp] theorem ofTexts_inj {texts others : List String} :
    ofTexts name texts = ofTexts name others ↔ texts = others := by
  have injective : Function.Injective fun s : String => ((name, .text s) : Parameter) := by
    intro s other same
    simpa using same
  exact injective.list_map.eq_iff

@[simp] theorem ofText_inj {text other : Option String} :
    ofText name text = ofText name other ↔ text = other := by
  cases text <;> cases other <;> simp [ofText]

@[simp] theorem ofFlag_inj {on other : Bool} :
    ofFlag name on = ofFlag name other ↔ on = other := by
  cases on <;> cases other <;> simp [ofFlag]

/-- The parameter for a number tells the number, if it is above zero. -/
@[simp] theorem ofPositive_inj {n m : Int} :
    ofPositive name n = ofPositive name m ↔ max n 0 = max m 0 := by
  unfold ofPositive
  by_cases positive : 0 < n <;> by_cases positiveToo : 0 < m <;>
    simp [positive, positiveToo] <;> omega

@[simp] theorem ofTexts_eq_nil_iff {texts : List String} : ofTexts name texts = [] ↔ texts = [] :=
  List.map_eq_nil_iff

@[simp] theorem ofText_eq_nil_iff {text : Option String} : ofText name text = [] ↔ text = none := by
  cases text <;> simp [ofText]

@[simp] theorem ofFlag_eq_nil_iff {on : Bool} : ofFlag name on = [] ↔ on = false := by
  cases on <;> simp [ofFlag]

@[simp] theorem ofPositive_eq_nil_iff {n : Int} : ofPositive name n = [] ↔ n ≤ 0 := by
  unfold ofPositive
  split <;> simp <;> omega

end Parameter

open Parameter

/-! ### What all parameters of a filter tell -/

/-- Two list filters are the same as far as the server is told: numbers that are not above zero are
all alike. -/
structure ListFilter.Agrees (filter other : ListFilter) : Prop where
  options : filter.options = other.options
  projects : filter.projects = other.projects
  groups : filter.groups = other.groups
  visibleToAll : filter.visibleToAll = other.visibleToAll
  user : filter.user = other.user
  owned : filter.owned = other.owned
  limit : max filter.limit 0 = max other.limit 0
  start : max filter.start 0 = max other.start 0
  substring : filter.substring = other.substring
  suggest : filter.suggest = other.suggest

/-- Two query filters are the same as far as the server is told. -/
structure QueryFilter.Agrees (filter other : QueryFilter) : Prop where
  query : filter.query = other.query
  limit : max filter.limit 0 = max other.limit 0
  start : max filter.start 0 = max other.start 0
  options : filter.options = other.options

/-- A list filter tells the server nothing but options. -/
structure ListFilter.HasOnlyOptions (filter : ListFilter) : Prop where
  projects : filter.projects = []
  groups : filter.groups = []
  visibleToAll : filter.visibleToAll = false
  user : filter.user = none
  owned : filter.owned = false
  limit : filter.limit ≤ 0
  start : filter.start ≤ 0
  substring : filter.substring = none
  suggest : filter.suggest = none

/-- A query filter tells the server nothing but options. -/
structure QueryFilter.HasOnlyOptions (filter : QueryFilter) : Prop where
  query : filter.query = none
  limit : filter.limit ≤ 0
  start : filter.start ≤ 0

@[simp] theorem DisplayOption.map_name_inj {options others : List DisplayOption} :
    options.map name = others.map name ↔ options = others := by
  have injective : Function.Injective name := fun _ _ => name_injective
  exact injective.list_map.eq_iff

/-- Two list filters have the same parameters exactly if they agree. -/
theorem ListFilter.parameters_eq_iff {filter other : ListFilter} :
    filter.parameters = other.parameters ↔ filter.Agrees other := by
  constructor
  · intro same
    have told (name : String) : under name filter.parameters = under name other.parameters :=
      congrArg (under name) same
    unfold parameters at told
    exact
      { options := by simpa using told "o"
        projects := by simpa using told "p"
        groups := by simpa using told "g"
        visibleToAll := by simpa using told "visible-to-all"
        user := by simpa using told "user"
        owned := by simpa using told "owned"
        limit := by simpa using told "n"
        start := by simpa using told "S"
        substring := by simpa using told "m"
        suggest := by simpa using told "suggest" }
  · intro agrees
    unfold parameters
    rw [agrees.options, agrees.projects, agrees.groups, agrees.visibleToAll, agrees.user,
      agrees.owned, ofPositive_inj.2 agrees.limit, ofPositive_inj.2 agrees.start, agrees.substring,
      agrees.suggest]

/-- Two query filters have the same parameters exactly if they agree. -/
theorem QueryFilter.parameters_eq_iff {filter other : QueryFilter} :
    filter.parameters = other.parameters ↔ filter.Agrees other := by
  constructor
  · intro same
    have told (name : String) : under name filter.parameters = under name other.parameters :=
      congrArg (under name) same
    unfold parameters at told
    exact
      { query := by simpa using told "query"
        limit := by simpa using told "limit"
        start := by simpa using told "start"
        options := by simpa using told "o" }
  · intro agrees
    unfold parameters
    rw [agrees.query, ofPositive_inj.2 agrees.limit, ofPositive_inj.2 agrees.start, agrees.options]

/-- A list filter that has only options has no other parameters than those of its options. -/
theorem ListFilter.HasOnlyOptions.parameters_eq {filter : ListFilter}
    (only : filter.HasOnlyOptions) :
    filter.parameters = ofTexts "o" (filter.options.map DisplayOption.name) := by
  unfold parameters
  rw [ofTexts_eq_nil_iff.2 only.projects, ofTexts_eq_nil_iff.2 only.groups,
    ofFlag_eq_nil_iff.2 only.visibleToAll, ofText_eq_nil_iff.2 only.user,
    ofFlag_eq_nil_iff.2 only.owned, ofPositive_eq_nil_iff.2 only.limit,
    ofPositive_eq_nil_iff.2 only.start, ofText_eq_nil_iff.2 only.substring,
    ofText_eq_nil_iff.2 only.suggest]
  simp

/-- A query filter that has only options has no other parameters than those of its options. -/
theorem QueryFilter.HasOnlyOptions.parameters_eq {filter : QueryFilter}
    (only : filter.HasOnlyOptions) :
    filter.parameters = ofTexts "o" (filter.options.map DisplayOption.name) := by
  unfold parameters
  rw [ofText_eq_nil_iff.2 only.query, ofPositive_eq_nil_iff.2 only.limit,
    ofPositive_eq_nil_iff.2 only.start]
  simp

/-- A list filter and a query filter have the same parameters exactly if they have the same options
and nothing else. -/
theorem ListFilter.parameters_eq_query_iff {filter : ListFilter} {query : QueryFilter} :
    filter.parameters = query.parameters ↔
      filter.options = query.options ∧ filter.HasOnlyOptions ∧ query.HasOnlyOptions := by
  constructor
  · intro same
    have told (name : String) : under name filter.parameters = under name query.parameters :=
      congrArg (under name) same
    unfold ListFilter.parameters QueryFilter.parameters at told
    refine ⟨by simpa using told "o", ?_, ?_⟩
    -- The names of the other parameters of either filter are not known to the other one.
    · exact
        { projects := by simpa using told "p"
          groups := by simpa using told "g"
          visibleToAll := by simpa using told "visible-to-all"
          user := by simpa using told "user"
          owned := by simpa using told "owned"
          limit := by simpa using told "n"
          start := by simpa using told "S"
          substring := by simpa using told "m"
          suggest := by simpa using told "suggest" }
    · exact
        { query := by simpa using (told "query").symm
          limit := by simpa using (told "limit").symm
          start := by simpa using (told "start").symm }
  · rintro ⟨same, only, onlyToo⟩
    rw [only.parameters_eq, onlyToo.parameters_eq, same]

/-- The parameters of a filter determine all that the filter tells the server: two list filters have
the same ones exactly if they agree on everything but numbers that are not above zero, and so do two
query filters; a list filter and a query filter have the same ones exactly if they have the same
options and nothing else. -/
theorem Parameter.parameters_determine_filters :
    (∀ filter other : ListFilter,
        filter.parameters = other.parameters ↔ filter.Agrees other) ∧
      (∀ filter other : QueryFilter,
        filter.parameters = other.parameters ↔ filter.Agrees other) ∧
      ∀ (filter : ListFilter) (query : QueryFilter),
        filter.parameters = query.parameters ↔
          filter.options = query.options ∧ filter.HasOnlyOptions ∧ query.HasOnlyOptions :=
  ⟨fun _ _ => ListFilter.parameters_eq_iff, fun _ _ => QueryFilter.parameters_eq_iff,
    fun _ _ => ListFilter.parameters_eq_query_iff⟩

end ReviewGroups
