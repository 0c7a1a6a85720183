/-
Module: ReviewGroups.Proofs.QueryBuilding
Purpose: What a query holds after any calls on it, where a single set replaces the options and all
  other arguments are added to them, and what its source is asked meanwhile. The options are
  described from the end of the run: the last replacement, and what was added since
  (`LastReplacement`). A set is a set of whatever kind, the views of dictionaries included. The run
  is the induction of `BuildingRun`; a call that fails leaves the query as it is, also one that was
  to replace options.
Trusted boundary: none
Main exports: QueryRequest.Step.Replaces, QueryRequest.Step.Gives, QueryRequest.LastReplacement,
  QueryRequest.Reflects, QueryRequest.Comes, QueryRequest.run_replaces_or_adds
-/
import ReviewGroups.Proofs.BuildingRun
import ReviewGroups.Proofs.FilterState
import ReviewGroups.Proofs.NamedOptions

namespace ReviewGroups.QueryRequest

namespace Step

/-- A step replaces the options by what the members of a set name: the set is its only argument.
The keys and the entries of an object count as sets too. -/
inductive Replaces : Step → List Value → Prop where
  | set (members : List Value) : Replaces (.withOptions [.items .set members]) members
  | frozenSet (members : List Value) : Replaces (.withOptions [.items .frozenSet members]) members
  | keyView (members : List Value) : Replaces (.withOptions [.items .keyView members]) members
  | entryView (members : List Value) : Replaces (.withOptions [.items .entryView members]) members

/-- A step replaces no options. -/
def IsMerge (step : Step) : Prop :=
  ∀ members, ¬ step.Replaces members

/-- A step gives an option. -/
def Gives (o : DisplayOption) : Step → Prop
  | .withOption value => o.IsNamedBy value
  | .withOptions values => ∃ value ∈ values, o.IsOfferedBy value
  | _ => False

/-- The arguments of a step are in order: what should name options does. -/
def IsInOrder : Step → Prop
  | .withOption value => ∃ o : DisplayOption, o.IsNamedBy value
  | .withOptions values => DisplayOption.AllOffered values
  | _ => True

/-- The single set among the arguments of a step is what it replaces the options by. -/
theorem onlySet?_eq_some_iff {values members : List Value} :
    onlySet? values = some members ↔ Replaces (.withOptions values) members := by
  constructor
  · intro single
    unfold onlySet? at single
    split at single
    next container _ =>
      cases container with
      | set =>
          cases single
          exact .set _
      | frozenSet =>
          cases single
          exact .frozenSet _
      | keyView =>
          cases single
          exact .keyView _
      | entryView =>
          cases single
          exact .entryView _
      | _ => cases single
    next => cases single
  · intro replaces
    cases replaces <;> rfl

theorem replaces_or_isMerge (step : Step) : (∃ members, step.Replaces members) ∨ step.IsMerge := by
  by_cases replaces : ∃ members, step.Replaces members
  · exact .inl replaces
  · exact .inr fun members found => replaces ⟨members, found⟩

end Step

/-- The last of some steps that replaces the options does so by `members`, and `later` are the steps
after it.  Where no step replaces them, no members are left and all steps are later. -/
inductive LastReplacement : List Step → List Value → List Step → Prop where
  | none {steps : List Step} (merges : ∀ step ∈ steps, step.IsMerge) :
      LastReplacement steps [] steps
  | some {before later : List Step} {step : Step} {members : List Value}
      (replaces : step.Replaces members) (merges : ∀ step ∈ later, step.IsMerge) :
      LastReplacement (before ++ step :: later) members later

namespace LastReplacement

variable {steps later : List Step} {step : Step} {members : List Value}

/-- Of steps with one at the end, that one is the last replacement, or it is a later step. -/
theorem append_singleton_inv (last : LastReplacement (steps ++ [step]) members later) :
    (step.Replaces members ∧ later = []) ∨
      (step.IsMerge ∧
        ∃ shorter, LastReplacement steps members shorter ∧ later = shorter ++ [step]) := by
  generalize whole : steps ++ [step] = all at last
  cases last with
  | none merges =>
      subst whole
      refine .inr ⟨merges step (by simp), steps, .none ?_, rfl⟩
      intro other present
      exact merges other (List.mem_append_left _ present)
  | @some before later replacing members replaces merges =>
      rcases List.eq_nil_or_concat later with rfl | ⟨shorter, other, rfl⟩
      · obtain ⟨-, same⟩ := List.append_inj' whole rfl
        cases same
        exact .inl ⟨replaces, rfl⟩
      · rw [List.concat_eq_append] at whole merges ⊢
        rw [← List.cons_append, ← List.append_assoc] at whole
        obtain ⟨rfl, same⟩ := List.append_inj' whole rfl
        cases same
        refine .inr ⟨merges step (by simp), shorter, .some replaces ?_, rfl⟩
        intro another present
        exact merges another (List.mem_append_left _ present)

end LastReplacement

/-- The parts of a query that are set as a whole. -/
inductive Part where
  | query
  | limit
  | start

namespace Part

/-- What a query holds for a part. -/
def value (request : QueryRequest) : Part → Value
  | .query => request.query
  | .limit => request.limit
  | .start => request.start

/-- What a part is before it is set. -/
def default : Part → Value
  | .query => .null
  | .limit | .start => .int 0

/-- What a step sets a part to. -/
def argument? : Part → Step → Option Value
  | .query, .withQuery value => some value
  | .limit, .withLimit value => some value
  | .start, .withStart value => some value
  | _, _ => none

end Part

/-- A query holds what steps put into it: the options that the members of the last replacement name
and those that later steps give; and for every other part what it was last set to, if it was set at
all. -/
structure Reflects (steps : List Step) (request : QueryRequest) : Prop where
  options :
    ∀ members later, LastReplacement steps members later →
      ∀ o : DisplayOption, o ∈ request.options ↔
        (∃ member ∈ members, o.IsNamedBy member) ∨ ∃ step ∈ later, step.Gives o
  parts :
    ∀ part : Part,
      part.value request = ((steps.filterMap part.argument?).getLast?).getD part.default

/-! ### A single step -/

variable {request next : QueryRequest} {step : Step}

theorem Step.Replaces.isInOrder_iff {members : List Value} (replaces : step.Replaces members) :
    step.IsInOrder ↔ DisplayOption.AllNamed members := by
  cases replaces <;> simp [Step.IsInOrder, DisplayOption.AllOffered, DisplayOption.partsOf,
    Value.elements]

/-- A step can be taken exactly if its arguments are in order. -/
theorem apply_isOk_iff (request : QueryRequest) (step : Step) :
    (∃ next, (apply step).run request = .ok () next) ↔ step.IsInOrder := by
  cases step with
  | withOption value =>
      simp only [Step.IsInOrder, ← DisplayOption.ofValue_eq_ok_iff]
      exact Building.exists_run_ofExcept_modify_iff
  | withOptions values =>
      cases single : onlySet? values with
      | some members =>
          rw [(Step.onlySet?_eq_some_iff.1 single).isInOrder_iff, ← DisplayOption.ofEach_isOk_iff]
          simp only [apply, single]
          exact Building.exists_run_ofExcept_modify_iff
      | none =>
          simp only [Step.IsInOrder, ← DisplayOption.listOfValues_isOk_iff]
          simp only [apply, single]
          exact Building.exists_run_ofExcept_modify_iff
  | _ => exact iff_of_true ⟨_, rfl⟩ trivial

/-- A step that cannot be taken leaves the query as it is, also one that was to replace options. -/
theorem eq_of_apply_error {misuse : Misuse}
    (failed : (apply step).run request = .error misuse next) : next = request := by
  cases step with
  | withOption value => exact (Building.run_ofExcept_modify_eq_error_iff.1 failed).2.symm
  | withOptions values =>
      cases single : onlySet? values with
      | some members =>
          simp only [apply, single] at failed
          exact (Building.run_ofExcept_modify_eq_error_iff.1 failed).2.symm
      | none =>
          simp only [apply, single] at failed
          exact (Building.run_ofExcept_modify_eq_error_iff.1 failed).2.symm
  | _ => cases failed

/-- A step that replaces the options leaves those that the members of its set name, and changes
nothing else. -/
theorem apply_of_replaces {members : List Value} (replaces : step.Replaces members)
    (applied : (apply step).run request = .ok () next) :
    ∃ options, (∀ o, o ∈ options ↔ ∃ member ∈ members, o.IsNamedBy member) ∧
      next = { request with options := options } := by
  obtain ⟨values, rfl⟩ : ∃ values, step = .withOptions values := by
    cases replaces <;> exact ⟨_, rfl⟩
  have single := Step.onlySet?_eq_some_iff.2 replaces
  simp only [apply, single] at applied
  obtain ⟨only, read, changed⟩ := Building.run_ofExcept_modify_eq_ok_iff.1 applied
  refine ⟨_, ?_, changed.symm⟩
  intro o
  rw [DisplayOption.mem_canonical, DisplayOption.mem_of_ofEach read]

/-- The other steps that give options change the options alone, and only by adding to them. -/
theorem apply_of_isMerge (isMerge : step.IsMerge)
    (giving : (∃ value, step = .withOption value) ∨ ∃ values, step = .withOptions values)
    (applied : (apply step).run request = .ok () next) :
    ∃ more, (∀ o, o ∈ more ↔ step.Gives o) ∧
      next = { request with options := DisplayOption.union request.options more } := by
  rcases giving with ⟨value, rfl⟩ | ⟨values, rfl⟩
  · obtain ⟨named, read, changed⟩ := Building.run_ofExcept_modify_eq_ok_iff.1 applied
    exact ⟨[named], DisplayOption.mem_of_ofValue read, changed.symm⟩
  · cases single : onlySet? values with
    | some members => exact absurd (Step.onlySet?_eq_some_iff.1 single) (isMerge members)
    | none =>
        simp only [apply, single] at applied
        obtain ⟨more, read, changed⟩ := Building.run_ofExcept_modify_eq_ok_iff.1 applied
        exact ⟨more, DisplayOption.mem_of_listOfValues read, changed.symm⟩

/-- A step that replaces no options adds those that it gives. -/
theorem mem_options_of_isMerge (isMerge : step.IsMerge)
    (applied : (apply step).run request = .ok () next) (o : DisplayOption) :
    o ∈ next.options ↔ o ∈ request.options ∨ step.Gives o := by
  cases step with
  | withOption value =>
      obtain ⟨more, gives, rfl⟩ := apply_of_isMerge isMerge (.inl ⟨value, rfl⟩) applied
      rw [DisplayOption.mem_union, gives]
  | withOptions values =>
      obtain ⟨more, gives, rfl⟩ := apply_of_isMerge isMerge (.inr ⟨values, rfl⟩) applied
      rw [DisplayOption.mem_union, gives]
  | _ =>
      cases applied
      simp [Step.Gives]

/-- A step sets the part that it is for, and leaves all others as they are. -/
theorem part_of_apply (applied : (apply step).run request = .ok () next) (part : Part) :
    part.value next = (part.argument? step).getD (part.value request) := by
  rcases step.replaces_or_isMerge with ⟨members, replaces⟩ | isMerge
  · obtain ⟨options, -, rfl⟩ := apply_of_replaces replaces applied
    cases replaces <;> cases part <;> rfl
  · cases step with
    | withOption value =>
        obtain ⟨more, -, rfl⟩ := apply_of_isMerge isMerge (.inl ⟨value, rfl⟩) applied
        cases part <;> rfl
    | withOptions values =>
        obtain ⟨more, -, rfl⟩ := apply_of_isMerge isMerge (.inr ⟨values, rfl⟩) applied
        cases part <;> rfl
    | _ =>
        cases applied
        cases part <;> rfl

namespace Reflects

/-- A query for everything is what no step at all leads to. -/
theorem start : Reflects [] new := by
  constructor
  case options =>
      intro members later last o
      generalize whole : ([] : List Step) = steps at last
      cases last with
      | none merges =>
          subst whole
          simp [new]
      | some replaces merges => simp at whole
  case parts =>
      intro part
      cases part <;> rfl

/-- A step that is taken on what steps led to is the last one of them. -/
theorem append_singleton {steps : List Step} (reflects : Reflects steps request)
    (applied : (apply step).run request = .ok () next) : Reflects (steps ++ [step]) next := by
  constructor
  case options =>
      intro members later last o
      rcases last.append_singleton_inv with ⟨replaces, rfl⟩ | ⟨isMerge, shorter, before, rfl⟩
      · obtain ⟨options, named, rfl⟩ := apply_of_replaces replaces applied
        simp [named]
      · rw [mem_options_of_isMerge isMerge applied, reflects.options members shorter before]
        simp [or_and_right, exists_or, or_assoc]
  case parts =>
      intro part
      rw [part_of_apply applied, reflects.parts, Building.getLast?_filterMap_append_singleton]

end Reflects

/-! ### A single call -/

/-- A source that answers or fails as it likes, whatever it was asked before. -/
def recorded (answer : List QueryFilter → QueryFilter → Except Failure (List Group))
    (filter : QueryFilter) : Recorder QueryFilter (List Group) :=
  Recorder.ask filter fun filters => answer filters filter

/-- The step that a call asks for, if it asks for one. -/
def Call.step? : Call → Option Step
  | .change step => some step
  | _ => none

/-- What comes of a call on a query when `answer` is what the source answers to filters: its
outcome, the query afterwards, and the filters for which groups were fetched on the way. -/
inductive Comes (answer : QueryFilter → Except Failure (List Group)) (request : QueryRequest) :
    Call → Except Failure Answer → QueryRequest → List QueryFilter → Prop where
  | changed {step : Step} {next : QueryRequest} (applied : (apply step).run request = .ok () next) :
      Comes answer request (.change step) (.ok .itself) next []
  | refused {step : Step} {misuse : Misuse}
      (applied : (apply step).run request = .error misuse request) :
      Comes answer request (.change step) (.error (.misuse misuse)) request []
  | state : Comes answer request .state (request.filter.map .filter) request []
  | invalid {failure : Failure} (refused : request.filter = .error failure) :
      Comes answer request .get (.error failure) request []
  | fetched {filter : QueryFilter} (valid : request.filter = .ok filter) :
      Comes answer request .get ((answer filter).map .groups) request [filter]

/-- Whatever the source answers, a call comes to its outcome. -/
theorem perform_comes (answer : List QueryFilter → QueryFilter → Except Failure (List Group))
    (request : QueryRequest) (call : Call) (filters : List QueryFilter) :
    ∃ outcome next made,
      (perform (recorded answer) request call).after filters =
          (.ok (outcome, next), filters ++ made) ∧
        Comes (answer filters) request call outcome next made := by
  cases call with
  | change step =>
      unfold perform
      rw [Recorder.after_pure]
      cases applied : (apply step).run request with
      | error misuse next =>
          obtain rfl := eq_of_apply_error applied
          exact ⟨_, _, [], by simp [Building.changed], .refused applied⟩
      | ok answered next => exact ⟨_, _, [], by simp [Building.changed], .changed applied⟩
  | state => exact ⟨_, _, [], by simp [perform], .state⟩
  | get =>
      unfold perform get
      rw [Building.after_ask, Recorder.after_bind, Recorder.after_orThrow]
      cases valid : request.filter with
      | error failure => exact ⟨_, _, [], by simp [Except.map], .invalid valid⟩
      | ok filter => exact ⟨_, _, [filter], rfl, .fetched valid⟩

/-- Of a change it is decided by its arguments alone whether it fails. -/
theorem Comes.isOk_iff {answer : QueryFilter → Except Failure (List Group)}
    {outcome : Except Failure Answer} {filters : List QueryFilter}
    (comes : Comes answer request (.change step) outcome next filters) :
    (∃ answer, outcome = .ok answer) ↔ step.IsInOrder := by
  rw [← apply_isOk_iff request step]
  cases comes with
  | changed applied => simp [applied]
  | refused applied => simp [applied]

/-! ### Any number of calls -/

/-- The steps that were taken in the course of some calls. -/
def accepted (calls : List Call) (outcomes : List (Except Failure Answer)) : List Step :=
  Building.accepted Call.step? calls outcomes

/-- Whatever comes of a call, the query goes on holding what the steps put into it that were
taken. -/
theorem Reflects.of_comes {answer : QueryFilter → Except Failure (List Group)} {calls : List Call}
    {outcomes : List (Except Failure Answer)} {call : Call} {outcome : Except Failure Answer}
    {filters : List QueryFilter} (sameLength : calls.length = outcomes.length)
    (reflects : Reflects (accepted calls outcomes) request)
    (comes : Comes answer request call outcome next filters) :
    Reflects (accepted (calls ++ [call]) (outcomes ++ [outcome])) next := by
  have last := Building.accepted_append_singleton Call.step? call outcome sameLength
  unfold accepted at reflects ⊢
  rw [last]
  cases comes with
  | changed applied => exact reflects.append_singleton applied
  | refused applied => simpa using reflects
  | state => cases request.filter <;> simpa [Except.map, Call.step?] using reflects
  | invalid refused => simpa using reflects
  | @fetched filter valid =>
      cases answer filter <;> simpa [Except.map, Call.step?] using reflects

/-- After any calls, a query holds what the steps put into it that were taken. -/
theorem exists_run (answer : List QueryFilter → QueryFilter → Except Failure (List Group))
    (calls : List Call) :
    ∃ outcomes final filters,
      (Building.run (perform (recorded answer)) new calls).after [] =
          (.ok (outcomes, final), filters) ∧
        calls.length = outcomes.length ∧ Reflects (accepted calls outcomes) final := by
  apply Building.run_induction
    (motive := fun calls outcomes final _ =>
      calls.length = outcomes.length ∧ Reflects (accepted calls outcomes) final)
  · exact ⟨rfl, .start⟩
  · rintro calls outcomes middle seen call ⟨sameLength, reflects⟩
    obtain ⟨outcome, next, made, performed, comes⟩ := perform_comes answer middle call seen
    refine ⟨outcome, next, seen ++ made, performed, ?_, reflects.of_comes sameLength comes⟩
    simp [sameLength]

end ReviewGroups.QueryRequest
