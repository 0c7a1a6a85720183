/-
Module: ReviewGroups.Proofs.GatheredParameters
Purpose: The parameters of a filter stay in order when they are gathered under their names, since
  those of one name stand together. Gathering moves every pair behind the first one with its name,
  which is a change of order in general; parameters in runs of one name each (`Parameter.ofRuns`)
  are left as they are, by induction on the runs.
Trusted boundary: none
Main exports: ParameterValue.written, Parameter.written, Parameter.ofRuns,
  Parameter.gather_ofRuns, ListFilter.exists_runs, QueryFilter.exists_runs
-/
import ReviewGroups.Http.Client
import ReviewGroups.Proofs.KeyedOrder
import ReviewGroups.Proofs.Result

namespace ReviewGroups

theorem Value.isSame_text (s other : String) :
    Value.isSame (.text s) (.text other) = (s == other) := by
  rw [isSame.eq_def]
  simp [whole?, text?]

namespace ParameterValue

/-- What a parameter is set to, as a value. -/
def toValue : ParameterValue → Value
  | .text s => .text s
  | .whole n => .int n

/-- What a parameter is set to, as it is written in a query: whole numbers in decimal. -/
def written : ParameterValue → String
  | .text s => s
  | .whole n => toString n

private theorem valueText_toValue (value : ParameterValue) :
    Http.Parameter.valueText value.toValue = value.written := by
  cases value <;> rfl

end ParameterValue

namespace Parameter

open Http.Parameter

/-- A parameter as a pair of texts. -/
def written (parameter : Parameter) : String × String :=
  (parameter.1, parameter.2.written)

private theorem toValue_eq (parameter : Parameter) :
    parameter.toValue = .items .tuple [.text parameter.1, parameter.2.toValue] := by
  obtain ⟨name, _ | _⟩ := parameter <;> rfl

/-- The parameters of several names, those of one name together. -/
def ofRuns (runs : Keyed (List ParameterValue)) : List Parameter :=
  runs.flatMap fun run => run.2.map fun value => (run.1, value)

variable {name : String} {runs : Keyed (List ParameterValue)}

/-! ### One parameter after the other -/

/-- The values of names as values. -/
def gathered (runs : Keyed (List ParameterValue)) : List (Value × List Value) :=
  runs.map fun run => (.text run.1, run.2.map ParameterValue.toValue)

/-- Gather a parameter beside others. -/
def gatherNext (known : List (Value × List Value)) (parameter : Parameter) :
    List (Value × List Value) :=
  gatherPairs.add (.text parameter.1) parameter.2.toValue known

/-- Parameters can be gathered, one after the other. -/
theorem gatherPairs_toValue (parameters : List Parameter) :
    gatherPairs (parameters.map toValue) = .ok (parameters.foldl gatherNext []) := by
  have step (known : List (Value × List Value)) :
      List.foldlM (fun gathered pair => do
          let name ← (← pair.item 0).readKey
          let value ← pair.item 1
          Pure.pure (gatherPairs.add name value gathered)) known (parameters.map toValue) =
        (Except.ok (parameters.foldl gatherNext known) : Except Misuse _) := by
    induction parameters generalizing known with
    | nil => rfl
    | cons parameter parameters inductionHypothesis =>
        rw [List.map_cons, List.foldlM_cons, toValue_eq]
        exact inductionHypothesis _
  exact step []

/-- A value of a name that others come before goes to the values of that name. -/
theorem add_gathered (unknown : name ∉ Keyed.keys runs) (value : Value)
    (rest : List (Value × List Value)) :
    gatherPairs.add (.text name) value (gathered runs ++ rest) =
      gathered runs ++ gatherPairs.add (.text name) value rest := by
  induction runs with
  | nil => rfl
  | cons run runs inductionHypothesis =>
      simp only [Keyed.keys, List.map_cons, List.mem_cons, not_or] at unknown
      have other : Value.isSame (.text run.1) (.text name) = false := by
        rw [Value.isSame_text]
        exact beq_false_of_ne (Ne.symm unknown.1)
      simp only [gathered, List.map_cons, List.cons_append, gatherPairs.add, other,
        Bool.false_eq_true, if_false]
      exact congrArg _ (inductionHypothesis unknown.2)

/-- The values of a name that is the last one go to its values. -/
theorem foldl_gatherNext_last (unknown : name ∉ Keyed.keys runs) (known : List Value)
    (values : List ParameterValue) :
    (values.map fun value => (name, value)).foldl gatherNext
        (gathered runs ++ [(.text name, known)]) =
      gathered runs ++ [(.text name, known ++ values.map ParameterValue.toValue)] := by
  induction values generalizing known with
  | nil => simp
  | cons value values inductionHypothesis =>
      have same : Value.isSame (.text name) (.text name) = true := by
        rw [Value.isSame_text]
        exact beq_self_eq_true name
      have next : gatherNext (gathered runs ++ [(.text name, known)]) (name, value) =
          gathered runs ++ [(.text name, known ++ [value.toValue])] := by
        unfold gatherNext
        rw [add_gathered unknown]
        simp [gatherPairs.add, same]
      rw [List.map_cons, List.foldl_cons, next, inductionHypothesis]
      simp

private theorem foldl_gatherNext_new (unknown : name ∉ Keyed.keys runs)
    {values : List ParameterValue}
    (some : values ≠ []) :
    (values.map fun value => (name, value)).foldl gatherNext (gathered runs) =
      gathered (runs ++ [(name, values)]) := by
  obtain ⟨value, values, rfl⟩ := List.exists_cons_of_ne_nil some
  have first : gatherNext (gathered runs) (name, value) =
      gathered runs ++ [(.text name, [value.toValue])] := by
    have added := add_gathered unknown value.toValue []
    rwa [List.append_nil] at added
  rw [List.map_cons, List.foldl_cons, first, foldl_gatherNext_last unknown]
  simp [gathered]

/-! ### All parameters -/

/-- The names with a value. -/
def withValues (runs : Keyed (List ParameterValue)) : Keyed (List ParameterValue) :=
  runs.filter fun run => !run.2.isEmpty

private theorem ofRuns_withValues (runs : Keyed (List ParameterValue)) :
    ofRuns (withValues runs) = ofRuns runs := by
  induction runs with
  | nil => rfl
  | cons run runs inductionHypothesis =>
      simp only [ofRuns, withValues] at inductionHypothesis
      rcases run with ⟨name, _ | ⟨value, values⟩⟩ <;>
        simp [ofRuns, withValues, inductionHypothesis]

private theorem ofRuns_eq_nil_iff : ofRuns runs = [] ↔ withValues runs = [] := by
  simp [ofRuns, withValues, List.filter_eq_nil_iff]

private theorem not_mem_keys_withValues (unknown : name ∉ Keyed.keys runs) :
    name ∉ Keyed.keys (withValues runs) :=
  fun known => unknown ((List.filter_sublist.map Prod.fst).subset known)

/-- Parameters of which those of one name stand together are gathered in their order. -/
theorem foldl_gatherNext_ofRuns (distinct : (Keyed.keys runs).Nodup) :
    (ofRuns runs).foldl gatherNext [] = gathered (withValues runs) := by
  induction runs using List.reverseRecOn with
  | nil => rfl
  | append_singleton runs run inductionHypothesis =>
      rw [Keyed.keys, List.map_append, List.nodup_append] at distinct
      obtain ⟨distinct, -, disjoint⟩ := distinct
      have unknown : run.1 ∉ Keyed.keys runs := fun known =>
        disjoint _ known _ (List.mem_singleton.2 rfl) rfl
      have split : ofRuns (runs ++ [run]) =
          ofRuns runs ++ run.2.map fun value => (run.1, value) := by
        simp [ofRuns]
      rw [split, List.foldl_append, inductionHypothesis distinct]
      -- A name without a value is not seen at all, so it leaves no entry behind.
      by_cases none : run.2 = []
      · simp [withValues, none]
      · rw [foldl_gatherNext_new (not_mem_keys_withValues unknown) none]
        simp [withValues, none]

/-- The values of names as they are written in a query. -/
def writtenRuns (runs : Keyed (List ParameterValue)) : Keyed (List String) :=
  runs.map fun run => (run.1, run.2.map ParameterValue.written)

/-- Parameters of which those of one name stand together are gathered as they are, and the values
are written out. -/
theorem gather_ofRuns (distinct : (Keyed.keys runs).Nodup) :
    gather (.items .list ((ofRuns runs).map toValue)) =
      .ok (some (writtenRuns (withValues runs))) := by
  have named : ((gathered (withValues runs)).map fun run =>
      (run.1.toText, run.2.map valueText)) = writtenRuns (withValues runs) := by
    have shown (s : String) : Value.toText (.text s) = s := rfl
    simp [gathered, writtenRuns, ParameterValue.valueText_toValue, shown]
  have distinctToo : (Keyed.keys (writtenRuns (withValues runs))).Nodup := by
    have fewer : Keyed.keys (writtenRuns (withValues runs)) = Keyed.keys (withValues runs) := by
      simp [Keyed.keys, writtenRuns]
    rw [fewer]
    exact distinct.sublist (List.filter_sublist.map Prod.fst)
  change (ofPairs _).map some = _
  unfold ofPairs
  rw [gatherPairs_toValue, foldl_gatherNext_ofRuns distinct]
  change Except.ok (some (Keyed.ofPairs ((gathered (withValues runs)).map fun run =>
    (run.1.toText, run.2.map valueText)))) = _
  rw [named, Keyed.ofPairs_of_nodup distinctToo]

private theorem ungroup_writtenRuns (runs : Keyed (List ParameterValue)) :
    Url.Form.ungroup (writtenRuns runs) = (ofRuns runs).map written := by
  simp [Url.Form.ungroup, writtenRuns, ofRuns, List.map_flatMap, List.flatMap_map,
    Function.comp_def, written]

/-- What parameters are gathered to tells them all as they are written, in order, and is empty
exactly if there are none. -/
theorem exists_gather_ofRuns (distinct : (Keyed.keys runs).Nodup) :
    ∃ values, gather (.items .list ((ofRuns runs).map toValue)) = .ok (some values) ∧
      Url.Form.ungroup values = (ofRuns runs).map written ∧ (values = [] ↔ ofRuns runs = []) := by
  refine ⟨_, gather_ofRuns distinct, ?_, ?_⟩
  · rw [ungroup_writtenRuns, ofRuns_withValues]
  · rw [ofRuns_eq_nil_iff]
    exact List.map_eq_nil_iff

/-! ### The parameters of filters -/

private theorem ofTexts_eq (name : String) (texts : List String) :
    ofTexts name texts = ofRuns [(name, texts.map .text)] := by
  simp [ofTexts, ofRuns]

private theorem ofText_eq (name : String) (text : Option String) :
    ofText name text = ofRuns [(name, text.toList.map .text)] := by
  cases text <;> simp [ofText, ofRuns]

private theorem ofFlag_eq (name : String) (on : Bool) :
    ofFlag name on = ofRuns [(name, if on then [.text "true"] else [])] := by
  cases on <;> simp [ofFlag, ofRuns]

private theorem ofPositive_eq (name : String) (n : Int) :
    ofPositive name n = ofRuns [(name, if 0 < n then [.whole n] else [])] := by
  unfold ofPositive
  split <;> simp [ofRuns]

private theorem ofRuns_append (runs others : Keyed (List ParameterValue)) :
    ofRuns runs ++ ofRuns others = ofRuns (runs ++ others) := by
  simp [ofRuns]

end Parameter

open Parameter in
/-- The parameters of a list filter that have one name stand together. -/
theorem ListFilter.exists_runs (filter : ListFilter) :
    ∃ runs, (Keyed.keys runs).Nodup ∧ filter.parameters = ofRuns runs := by
  unfold parameters
  simp only [ofTexts_eq, ofText_eq, ofFlag_eq, ofPositive_eq, ofRuns_append]
  refine ⟨_, ?_, rfl⟩
  simp [Keyed.keys]

open Parameter in
/-- The parameters of a query filter that have one name stand together. -/
theorem QueryFilter.exists_runs (filter : QueryFilter) :
    ∃ runs, (Keyed.keys runs).Nodup ∧ filter.parameters = ofRuns runs := by
  unfold parameters
  simp only [ofTexts_eq, ofText_eq, ofPositive_eq, ofRuns_append]
  refine ⟨_, ?_, rfl⟩
  simp [Keyed.keys]

end ReviewGroups
