/-
Module: ReviewGroups.Proofs.NamedOptions
Purpose: Which display options the arguments of a call name, and when a call with them is refused.
  Arguments are words, options, and collections of them; naming is a relation between an option and
  an argument, and a call is refused exactly if some argument names none. Words are compared in
  upper case.
Trusted boundary: none
Main exports: DisplayOption.IsNamedBy, DisplayOption.partsOf, DisplayOption.IsOfferedBy,
  DisplayOption.AllNamed, DisplayOption.ofValue_eq_ok_iff, DisplayOption.ofEach_eq_ok_iff,
  DisplayOption.mem_of_listOfValues, DisplayOption.listOfValues_isOk_iff
-/
import ReviewGroups.Filter.Options
import ReviewGroups.Proofs.Pairing
import ReviewGroups.Proofs.Result

namespace ReviewGroups.DisplayOption

/-- A value names an option: it is the option, or its name in any case. -/
inductive IsNamedBy (o : DisplayOption) : Value → Prop where
  | itself : IsNamedBy o (.option o)
  | word {s : String} (upper : Text.upper s = o.name) : IsNamedBy o (.text s)

/-- The parts of an argument that are to name an option each: a text or an option is a single part,
and a collection has its items for parts. -/
def partsOf : Value → Except Misuse (List Value)
  | .text s => .ok [.text s]
  | .option o => .ok [.option o]
  | value => value.elements

/-- An option is among those that an argument offers. -/
def IsOfferedBy (o : DisplayOption) (argument : Value) : Prop :=
  ∃ parts, partsOf argument = .ok parts ∧ ∃ part ∈ parts, o.IsNamedBy part

/-- Every one of the values names an option. -/
def AllNamed (values : List Value) : Prop :=
  ∀ value ∈ values, ∃ o : DisplayOption, o.IsNamedBy value

/-- Every argument has parts, and all of them name options. -/
def AllOffered (arguments : List Value) : Prop :=
  ∀ argument ∈ arguments, ∃ parts, partsOf argument = .ok parts ∧ AllNamed parts

/-- No two options have the same name. -/
theorem name_injective {left right : DisplayOption} (same : left.name = right.name) :
    left = right := by
  have found : ofName? left.name = ofName? right.name := congrArg ofName? same
  rw [ofName?_name, ofName?_name] at found
  exact Option.some.inj found

/-- A value is read as an option exactly if it names it. -/
theorem ofValue_eq_ok_iff {value : Value} {o : DisplayOption} :
    ofValue value = .ok o ↔ o.IsNamedBy value := by
  constructor
  · intro read
    unfold ofValue at read
    split at read
    · cases read
      exact .itself
    · split at read
      · next s other found =>
          cases read
          exact .word (name_of_ofName? found).symm
      · cases read
    · cases read
  · rintro (_ | ⟨upper⟩)
    · rfl
    · simp [ofValue, ofWord?, upper]

/-- Values are read as options one by one. -/
theorem ofEach_eq_mapM (values : List Value) : ofEach values = values.mapM ofValue := by
  induction values with
  | nil => rfl
  | cons value values inductionHypothesis =>
      rw [List.mapM_cons, ← inductionHypothesis]
      rfl

/-- Values are read as options exactly if each of them names the option at its place. -/
theorem ofEach_eq_ok_iff {values : List Value} {options : List DisplayOption} :
    ofEach values = .ok options ↔
      List.Forall₂ (fun value o => IsNamedBy o value) values options := by
  rw [ofEach_eq_mapM, Result.mapM_eq_ok_iff]
  simp only [ofValue_eq_ok_iff]

/-- A value names one option at most. -/
theorem IsNamedBy.unique {value : Value} {left right : DisplayOption} (first : left.IsNamedBy value)
    (second : right.IsNamedBy value) : left = right := by
  cases first with
  | itself =>
      cases second
      rfl
  | word upper =>
      rcases second with _ | ⟨upperToo⟩
      exact name_injective (upper.symm.trans upperToo)

/-- The option that a value is read as is the only one that it names. -/
theorem mem_of_ofValue {value : Value} {named : DisplayOption} (read : ofValue value = .ok named)
    (o : DisplayOption) : o ∈ [named] ↔ o.IsNamedBy value := by
  have isNamed := ofValue_eq_ok_iff.1 read
  rw [List.mem_singleton]
  constructor
  · rintro rfl
    exact isNamed
  · intro isNamedToo
    exact isNamedToo.unique isNamed

/-- The options that values are read as are those that the values name. -/
theorem mem_of_ofEach {values : List Value} {options : List DisplayOption}
    (read : ofEach values = .ok options) (o : DisplayOption) :
    o ∈ options ↔ ∃ value ∈ values, o.IsNamedBy value := by
  have same : ∀ value other, IsNamedBy other value → (o.IsNamedBy value ↔ other = o) := by
    intro value other named
    constructor
    · intro namedToo
      exact named.unique namedToo
    · rintro rfl
      exact named
  rw [exists_mem_iff_of_forall₂ same (ofEach_eq_ok_iff.1 read)]
  simp

theorem ofEach_isOk_iff {values : List Value} :
    (∃ options, ofEach values = .ok options) ↔ AllNamed values := by
  simp only [ofEach_eq_ok_iff]
  exact exists_forall₂_iff

theorem listOfValue_eq (argument : Value) :
    listOfValue argument = partsOf argument >>= ofEach := by
  cases argument <;> rfl

private theorem mem_of_listOfValue {argument : Value} {options : List DisplayOption}
    (read : listOfValue argument = .ok options) (o : DisplayOption) :
    o ∈ options ↔ o.IsOfferedBy argument := by
  rw [listOfValue_eq] at read
  obtain ⟨parts, split, readParts⟩ := Result.bind_eq_ok_iff.1 read
  unfold IsOfferedBy
  rw [mem_of_ofEach readParts, split]
  simp

/-- An argument can be read exactly if it has parts that all name options. -/
theorem listOfValue_isOk_iff {argument : Value} :
    (∃ options, listOfValue argument = .ok options) ↔
      ∃ parts, partsOf argument = .ok parts ∧ AllNamed parts := by
  simp only [listOfValue_eq, Result.bind_eq_ok_iff, ← ofEach_isOk_iff]
  constructor
  · rintro ⟨options, parts, split, read⟩
    exact ⟨parts, split, options, read⟩
  · rintro ⟨parts, split, options, read⟩
    exact ⟨options, parts, split, read⟩

/-- Arguments are read one by one, and their options follow one another. -/
theorem listOfValues_eq_mapM (arguments : List Value) :
    listOfValues arguments = (arguments.mapM listOfValue).map List.flatten := by
  induction arguments with
  | nil => rfl
  | cons argument arguments inductionHypothesis =>
      rw [listOfValues, List.mapM_cons, inductionHypothesis]
      cases listOfValue argument with
      | error misuse => rfl
      | ok list => cases arguments.mapM listOfValue <;> rfl

/-- Arguments are read exactly if each of them is. -/
theorem listOfValues_eq_ok_iff {arguments : List Value} {options : List DisplayOption} :
    listOfValues arguments = .ok options ↔
      ∃ lists, List.Forall₂ (fun argument list => listOfValue argument = .ok list) arguments lists ∧
        lists.flatten = options := by
  rw [listOfValues_eq_mapM, Result.map_eq_ok_iff]
  simp only [Result.mapM_eq_ok_iff]

/-- The options that arguments are read as are those that one of them offers. -/
theorem mem_of_listOfValues {arguments : List Value} {options : List DisplayOption}
    (read : listOfValues arguments = .ok options) (o : DisplayOption) :
    o ∈ options ↔ ∃ argument ∈ arguments, o.IsOfferedBy argument := by
  obtain ⟨lists, paired, rfl⟩ := listOfValues_eq_ok_iff.1 read
  have agree :
      ∀ argument list, listOfValue argument = .ok list → (o.IsOfferedBy argument ↔ o ∈ list) :=
    fun argument list first => (mem_of_listOfValue first o).symm
  rw [List.mem_flatten, exists_mem_iff_of_forall₂ agree paired]

/-- Arguments can be read exactly if each of them can. -/
theorem listOfValues_isOk_iff {arguments : List Value} :
    (∃ options, listOfValues arguments = .ok options) ↔ AllOffered arguments := by
  simp only [listOfValues_eq_ok_iff, AllOffered, ← listOfValue_isOk_iff]
  rw [← exists_forall₂_iff]
  constructor
  · rintro ⟨_, lists, paired, rfl⟩
    exact ⟨lists, paired⟩
  · rintro ⟨lists, paired⟩
    exact ⟨_, lists, paired, rfl⟩

end ReviewGroups.DisplayOption
