/-
Module: ReviewGroups.Proofs.ListBuilding
Purpose: What a listing holds after any calls on it, and what its source is asked meanwhile.
  `Reflects` compares the listing with the list of the steps that were taken, by folds over that
  list, and `Comes` says of one call more what it comes to. The run is the induction of
  `BuildingRun`; a call that fails leaves the listing as it is, which is proved of the change
  itself.
Trusted boundary: none
Main exports: ListRequest.Step.Names, ListRequest.Step.IsInOrder, ListRequest.Part,
  ListRequest.Reflects, ListRequest.recorded, ListRequest.Comes, ListRequest.run_reflects_calls
-/
import ReviewGroups.Proofs.BuildingRun
import ReviewGroups.Proofs.FilterState
import ReviewGroups.Proofs.NamedOptions

namespace ReviewGroups

theorem DisplayOption.union_sublist_all (chosen more : List DisplayOption) :
    (union chosen more).Sublist all :=
  List.filter_sublist

namespace ListRequest

namespace Step

/-- A step adds an option to a listing. -/
def Names (o : DisplayOption) : Step → Prop
  | .addOption value => o.IsNamedBy value
  | .addOptions values => ∃ value ∈ values, o.IsOfferedBy value
  | _ => False

/-- The arguments of a step are in order: what should name options does. -/
def IsInOrder : Step → Prop
  | .addOption value => ∃ o : DisplayOption, o.IsNamedBy value
  | .addOptions values => DisplayOption.AllOffered values
  | _ => True

/-- The project that a step adds to a listing. -/
def project? : Step → Option Value
  | .withProject value => some value
  | _ => none

/-- The group that a step adds to a listing. -/
def group? : Step → Option Value
  | .addGroup value => some value
  | _ => none

end Step

/-- The parts of a listing that are set as a whole. -/
inductive Part where
  | visibleToAll
  | user
  | owned
  | limit
  | start
  | substring
  | suggest

namespace Part

/-- What a listing holds for a part. -/
def value (request : ListRequest) : Part → Value
  | .visibleToAll => request.visibleToAll
  | .user => request.user
  | .owned => request.owned
  | .limit => request.limit
  | .start => request.start
  | .substring => request.substring
  | .suggest => request.suggest

/-- What a part is before it is set. -/
def default : Part → Value
  | .visibleToAll | .owned => .bool false
  | .limit | .start => .int 0
  | .user | .substring | .suggest => .null

/-- What a step sets a part to. -/
def argument? : Part → Step → Option Value
  | .visibleToAll, .withVisibleToAll value => some value
  | .user, .withUser value => some value
  | .owned, .withOwned value => some value
  | .limit, .withLimit value => some value
  | .start, .withStart value => some value
  | .substring, .withSubstring value => some value
  | .suggest, .withSuggest value => some value
  | _, _ => none

end Part

/-- A listing holds what steps put into it: all options that one of them names, in the order of
declaration; the projects and the groups in the order of the steps; and for every other part what it
was last set to, if it was set at all. -/
structure Reflects (steps : List Step) (request : ListRequest) : Prop where
  options : ∀ o, o ∈ request.options ↔ ∃ step ∈ steps, step.Names o
  ordered : request.options.Sublist DisplayOption.all
  projects : request.projects = steps.filterMap Step.project?
  groups : request.groups = steps.filterMap Step.group?
  parts :
    ∀ part : Part,
      part.value request = ((steps.filterMap part.argument?).getLast?).getD part.default

/-! ### A single step -/

variable {request next : ListRequest} {step : Step}

/-- A step can be taken exactly if its arguments are in order. -/
theorem apply_isOk_iff (request : ListRequest) (step : Step) :
    (∃ next, (apply step).run request = .ok () next) ↔ step.IsInOrder := by
  cases step with
  | addOption value =>
      simp only [Step.IsInOrder, ← DisplayOption.ofValue_eq_ok_iff]
      exact Building.exists_run_ofExcept_modify_iff
  | addOptions values =>
      simp only [Step.IsInOrder, ← DisplayOption.listOfValues_isOk_iff]
      exact Building.exists_run_ofExcept_modify_iff
  | _ => exact iff_of_true ⟨_, rfl⟩ trivial

/-- A step that cannot be taken leaves the listing as it is. -/
theorem eq_of_apply_error {misuse : Misuse}
    (failed : (apply step).run request = .error misuse next) : next = request := by
  cases step with
  | addOption value => exact (Building.run_ofExcept_modify_eq_error_iff.1 failed).2.symm
  | addOptions values => exact (Building.run_ofExcept_modify_eq_error_iff.1 failed).2.symm
  | _ => cases failed

private theorem apply_eq_ok_of_names
    (naming : (∃ value, step = .addOption value) ∨ ∃ values, step = .addOptions values)
    (applied : (apply step).run request = .ok () next) :
    ∃ more, (∀ o, o ∈ more ↔ step.Names o) ∧
      next = { request with options := DisplayOption.union request.options more } := by
  rcases naming with ⟨value, rfl⟩ | ⟨values, rfl⟩
  · obtain ⟨named, read, changed⟩ := Building.run_ofExcept_modify_eq_ok_iff.1 applied
    exact ⟨[named], DisplayOption.mem_of_ofValue read, changed.symm⟩
  · obtain ⟨more, read, changed⟩ := Building.run_ofExcept_modify_eq_ok_iff.1 applied
    exact ⟨more, DisplayOption.mem_of_listOfValues read, changed.symm⟩

/-- A step adds the options that it names, and takes none away. -/
theorem mem_options_of_apply (applied : (apply step).run request = .ok () next)
    (o : DisplayOption) : o ∈ next.options ↔ o ∈ request.options ∨ step.Names o := by
  cases step with
  | addOption value =>
      obtain ⟨more, names, rfl⟩ := apply_eq_ok_of_names (.inl ⟨value, rfl⟩) applied
      rw [DisplayOption.mem_union, names]
  | addOptions values =>
      obtain ⟨more, names, rfl⟩ := apply_eq_ok_of_names (.inr ⟨values, rfl⟩) applied
      rw [DisplayOption.mem_union, names]
  | _ =>
      cases applied
      simp [Step.Names]

/-- A step keeps the options in the order of declaration. -/
theorem options_sublist_of_apply (applied : (apply step).run request = .ok () next)
    (ordered : request.options.Sublist DisplayOption.all) :
    next.options.Sublist DisplayOption.all := by
  cases step with
  | addOption value =>
      obtain ⟨more, -, rfl⟩ := apply_eq_ok_of_names (.inl ⟨value, rfl⟩) applied
      exact DisplayOption.union_sublist_all _ _
  | addOptions values =>
      obtain ⟨more, -, rfl⟩ := apply_eq_ok_of_names (.inr ⟨values, rfl⟩) applied
      exact DisplayOption.union_sublist_all _ _
  | _ =>
      cases applied
      exact ordered

/-- A step adds its project at the end of the projects, and its group at the end of the groups. -/
theorem gathered_of_apply (applied : (apply step).run request = .ok () next) :
    next.projects = request.projects ++ step.project?.toList ∧
      next.groups = request.groups ++ step.group?.toList := by
  cases step with
  | addOption value =>
      obtain ⟨more, -, rfl⟩ := apply_eq_ok_of_names (.inl ⟨value, rfl⟩) applied
      simp [Step.project?, Step.group?]
  | addOptions values =>
      obtain ⟨more, -, rfl⟩ := apply_eq_ok_of_names (.inr ⟨values, rfl⟩) applied
      simp [Step.project?, Step.group?]
  | _ =>
      cases applied
      simp [Step.project?, Step.group?]

/-- A step sets the part that it is for, and leaves all others as they are. -/
theorem part_of_apply (applied : (apply step).run request = .ok () next) (part : Part) :
    part.value next = (part.argument? step).getD (part.value request) := by
  cases step with
  | addOption value =>
      obtain ⟨more, -, rfl⟩ := apply_eq_ok_of_names (.inl ⟨value, rfl⟩) applied
      cases part <;> rfl
  | addOptions values =>
      obtain ⟨more, -, rfl⟩ := apply_eq_ok_of_names (.inr ⟨values, rfl⟩) applied
      cases part <;> rfl
  | _ =>
      cases applied
      cases part <;> rfl

namespace Reflects

/-- A listing of everything is what no step at all leads to. -/
theorem start : Reflects [] new := by
  constructor
  case options => simp [new]
  case ordered => exact List.nil_sublist _
  case projects => rfl
  case groups => rfl
  case parts =>
      intro part
      cases part <;> rfl

/-- A step that is taken on what steps led to is the last one of them. -/
theorem append_singleton {steps : List Step} (reflects : Reflects steps request)
    (applied : (apply step).run request = .ok () next) : Reflects (steps ++ [step]) next := by
  obtain ⟨projects, groups⟩ := gathered_of_apply applied
  constructor
  case options =>
      intro o
      rw [mem_options_of_apply applied, reflects.options]
      simp [or_and_right, exists_or]
  case ordered => exact options_sublist_of_apply applied reflects.ordered
  case projects =>
      rw [projects, reflects.projects, Building.filterMap_append_singleton]
  case groups =>
      rw [groups, reflects.groups, Building.filterMap_append_singleton]
  case parts =>
      intro part
      rw [part_of_apply applied, reflects.parts, Building.getLast?_filterMap_append_singleton]

end Reflects

/-! ### A single call -/

/-- What a source is asked: for the groups that a filter lets through, or to take note of the names
that groups were given. -/
inductive Note where
  | fetched (filter : ListFilter)
  | named (groups : Keyed Group)

/-- A source that answers or fails as it likes, whatever it was asked before. -/
def recorded (answer : List Note → ListFilter → Except Failure (Keyed Group)) :
    ListSource (Recorder Note) :=
  { fetch := fun filter => Recorder.ask (.fetched filter) fun notes => answer notes filter
    named := fun groups => Recorder.ask (.named groups) fun _ => .ok () }

/-- The filters for which groups were fetched, in order. -/
def fetched (notes : List Note) : List ListFilter :=
  notes.filterMap fun note =>
    match note with
    | .fetched filter => some filter
    | .named _ => none

/-- The step that a call asks for, if it asks for one. -/
def Call.step? : Call → Option Step
  | .change step => some step
  | _ => none

/-- A call carries the listing out. -/
def Call.IsTerminal (call : Call) : Prop :=
  call = .get ∨ call = .getAsMap

/-- What comes of a call on a listing: its outcome, the listing afterwards, and the filters for
which groups were fetched on the way. -/
inductive Comes (request : ListRequest) :
    Call → Except Failure Answer → ListRequest → List ListFilter → Prop where
  | changed {step : Step} {next : ListRequest} (applied : (apply step).run request = .ok () next) :
      Comes request (.change step) (.ok .itself) next []
  | refused {step : Step} {misuse : Misuse}
      (applied : (apply step).run request = .error misuse request) :
      Comes request (.change step) (.error (.misuse misuse)) request []
  | state : Comes request .state (request.filter.map .filter) request []
  | invalid {call : Call} {failure : Failure} (terminal : call.IsTerminal)
      (refused : request.filter = .error failure) : Comes request call (.error failure) request []
  | fetched {call : Call} {filter : ListFilter} {outcome : Except Failure Answer}
      (terminal : call.IsTerminal) (valid : request.filter = .ok filter) :
      Comes request call outcome request [filter]

variable {answer : List Note → ListFilter → Except Failure (Keyed Group)} {notes : List Note}

private theorem after_getAsMap (request : ListRequest) (notes : List Note) :
    (getAsMap (recorded answer) request).after notes =
      match request.filter with
      | .ok filter => (answer notes filter, notes ++ [.fetched filter])
      | .error failure => (.error failure, notes) := by
  unfold getAsMap
  rw [Recorder.after_bind, Recorder.after_orThrow]
  cases request.filter <;> rfl

private theorem after_get (request : ListRequest) (notes : List Note) :
    (get (recorded answer) request).after notes =
      match (getAsMap (recorded answer) request).after notes with
      | (.ok groups, seen) =>
          (.ok ((nameGroups groups).map Prod.snd), seen ++ [.named (nameGroups groups)])
      | (.error failure, seen) => (.error failure, seen) := by
  unfold get
  rw [Recorder.after_bind]
  rcases (getAsMap (recorded answer) request).after notes with ⟨_ | _, _⟩ <;> rfl

/-- Whatever the source answers, a call comes to its outcome. -/
theorem perform_comes (answer : List Note → ListFilter → Except Failure (Keyed Group))
    (request : ListRequest) (call : Call) (notes : List Note) :
    ∃ outcome next made,
      (perform (recorded answer) request call).after notes = (.ok (outcome, next), notes ++ made) ∧
        Comes request call outcome next (fetched made) := by
  cases call with
  | change step =>
      unfold perform
      rw [Recorder.after_pure]
      cases applied : (apply step).run request with
      | error misuse next =>
          obtain rfl := eq_of_apply_error applied
          exact ⟨_, _, [], by simp [Building.changed], .refused applied⟩
      | ok answered next => exact ⟨_, _, [], by simp [Building.changed], .changed applied⟩
  | state => exact ⟨_, _, [], by simp [perform], .state⟩
  | getAsMap =>
      unfold perform
      rw [Building.after_ask, after_getAsMap]
      cases valid : request.filter with
      | error failure => exact ⟨_, _, [], by simp [Except.map], .invalid (.inr rfl) valid⟩
      | ok filter => exact ⟨_, _, [.fetched filter], rfl, .fetched (.inr rfl) valid⟩
  | get =>
      unfold perform
      rw [Building.after_ask, after_get, after_getAsMap]
      cases valid : request.filter with
      | error failure => exact ⟨_, _, [], by simp [Except.map], .invalid (.inl rfl) valid⟩
      | ok filter =>
          cases answered : answer notes filter with
          | error failure =>
              exact ⟨.error failure, request, [.fetched filter], by simp [answered, Except.map],
                .fetched (.inl rfl) valid⟩
          | ok groups =>
              exact ⟨.ok (.groups ((nameGroups groups).map Prod.snd)), request,
                [.fetched filter, .named (nameGroups groups)], by simp [answered, Except.map],
                .fetched (.inl rfl) valid⟩

/-! ### Any number of calls -/

/-- The steps that were taken in the course of some calls. -/
def accepted (calls : List Call) (outcomes : List (Except Failure Answer)) : List Step :=
  Building.accepted Call.step? calls outcomes

/-- Whatever comes of a call, the listing goes on holding what the steps put into it that were
taken. -/
theorem Reflects.of_comes {calls : List Call} {outcomes : List (Except Failure Answer)}
    {call : Call} {outcome : Except Failure Answer} {filters : List ListFilter}
    (sameLength : calls.length = outcomes.length)
    (reflects : Reflects (accepted calls outcomes) request)
    (comes : Comes request call outcome next filters) :
    Reflects (accepted (calls ++ [call]) (outcomes ++ [outcome])) next := by
  have last := Building.accepted_append_singleton Call.step? call outcome sameLength
  unfold accepted at reflects ⊢
  rw [last]
  cases comes with
  | changed applied => exact reflects.append_singleton applied
  | refused applied => simpa using reflects
  | state => cases request.filter <;> simpa [Except.map, Call.step?] using reflects
  | invalid terminal refused => simpa using reflects
  | fetched terminal valid =>
      have noStep : call.step? = none := by
        rcases terminal with rfl | rfl <;> rfl
      cases outcome <;> simpa [noStep] using reflects

/-- After any calls, a listing holds what the steps put into it that were taken. -/
theorem exists_run (answer : List Note → ListFilter → Except Failure (Keyed Group))
    (calls : List Call) :
    ∃ outcomes final notes,
      (Building.run (perform (recorded answer)) new calls).after [] =
          (.ok (outcomes, final), notes) ∧
        calls.length = outcomes.length ∧ Reflects (accepted calls outcomes) final := by
  apply Building.run_induction
    (motive := fun calls outcomes final _ =>
      calls.length = outcomes.length ∧ Reflects (accepted calls outcomes) final)
  · exact ⟨rfl, .start⟩
  · rintro calls outcomes middle seen call ⟨sameLength, reflects⟩
    obtain ⟨outcome, next, made, performed, comes⟩ := perform_comes answer middle call seen
    refine ⟨outcome, next, seen ++ made, performed, ?_, reflects.of_comes sameLength comes⟩
    simp [sameLength]

/-- Of a change it is decided by its arguments alone whether it fails. -/
theorem Comes.isOk_iff {outcome : Except Failure Answer} {filters : List ListFilter}
    (comes : Comes request (.change step) outcome next filters) :
    (∃ answer, outcome = .ok answer) ↔ step.IsInOrder := by
  rw [← apply_isOk_iff request step]
  cases comes with
  | changed applied => simp [applied]
  | refused applied => simp [applied]
  | invalid terminal refused => rcases terminal with terminal | terminal <;> cases terminal
  | fetched terminal valid => rcases terminal with terminal | terminal <;> cases terminal

/-- After any calls on a listing of everything, whatever its source answers: the listing holds what
the steps put into it that were taken; it stands for the filter that carries just that, if there is
one, or else its values are not valid; and one call more, whichever it is, fetches groups once, for
that filter, or not at all. -/
theorem run_reflects_calls (answer : List Note → ListFilter → Except Failure (Keyed Group))
    (calls : List Call) (call : Call) :
    ∃ outcomes final notes outcome next made,
      (Building.run (perform (recorded answer)) new calls).after [] =
          (.ok (outcomes, final), notes) ∧
        (Building.run (perform (recorded answer)) new (calls ++ [call])).after [] =
          (.ok (outcomes ++ [outcome], next), notes ++ made) ∧
        Reflects (accepted calls outcomes) final ∧
        (∀ filter, final.filter = .ok filter ↔ final.Carries filter) ∧
        (∀ failure, final.filter = .error failure → failure.IsInvalid .listFilter) ∧
        Comes final call outcome next (fetched made) ∧
        ∀ step, call = .change step → ((∃ answer, outcome = .ok answer) ↔ step.IsInOrder) := by
  obtain ⟨outcomes, final, notes, before, sameLength, reflects⟩ := exists_run answer calls
  obtain ⟨outcome, next, made, performed, comes⟩ := perform_comes answer final call notes
  refine ⟨outcomes, final, notes, outcome, next, made, before,
    Building.run_append_singleton before performed, reflects, ?_, ?_, comes, ?_⟩
  · intro filter
    exact filter_eq_ok_iff
  · intro failure refused
    exact filter_error refused
  · rintro step rfl
    exact comes.isOk_iff

end ListRequest

end ReviewGroups
