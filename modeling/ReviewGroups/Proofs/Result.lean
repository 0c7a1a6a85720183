/-
Module: ReviewGroups.Proofs.Result
Purpose: Results of several parts, taken apart into the results of the parts. The equivalences for
  `bind`, `map` and `mapM` replace case analyses on results elsewhere. `ErrsOnly` is a property of
  results that speaks of failures alone, and goes through all of these.
Trusted boundary: none
Main exports: Result.bind_eq_ok_iff, Result.bind_eq_error_iff, Result.map_eq_ok_iff,
  Result.map_eq_error_iff, Result.map_isOk_iff, Result.ok_bind, Result.throw_bind,
  Result.guard_eq_ok_iff, Result.eq_of_unless, Result.map_bind_congr, Result.mapM_eq_ok_iff,
  Result.mapM_eq_error_iff, Result.exists_of_mapM_eq_error, Result.eq_ok_of_toOption,
  Result.exists_of_isSome_toOption, Result.ErrsOnly
-/
import Mathlib.Data.List.Forall2

namespace ReviewGroups.Result

variable {ε α β : Type} {first : Except ε α}

/-- Two results one after the other are an answer exactly if both are. -/
theorem bind_eq_ok_iff {next : α → Except ε β} {result : β} :
    first >>= next = .ok result ↔ ∃ value, first = .ok value ∧ next value = .ok result := by
  cases first with
  | error failure => simp [bind, Except.bind]
  | ok value => simp [bind, Except.bind]

/-- Two results one after the other are a failure exactly if the first is, or the second after an
answer. -/
theorem bind_eq_error_iff {next : α → Except ε β} {failure : ε} :
    first >>= next = .error failure ↔
      first = .error failure ∨ ∃ value, first = .ok value ∧ next value = .error failure := by
  cases first with
  | error other => simp [bind, Except.bind]
  | ok value => simp [bind, Except.bind]

/-- A change of an answer is an answer exactly if there was one. -/
theorem map_eq_ok_iff {f : α → β} {result : β} :
    first.map f = .ok result ↔ ∃ value, first = .ok value ∧ f value = result := by
  cases first with
  | error failure => simp [Except.map]
  | ok value => simp [Except.map]

/-- A change of an answer is a failure exactly if there was one. -/
theorem map_eq_error_iff {f : α → β} {failure : ε} :
    first.map f = .error failure ↔ first = .error failure := by
  cases first with
  | error other => simp [Except.map]
  | ok value => simp [Except.map]

/-- After an answer what follows is done with it. -/
theorem ok_bind (value : α) (next : α → Except ε β) :
    (.ok value : Except ε α) >>= next = next value :=
  rfl

/-- After a failure nothing else is done. -/
theorem throw_bind (failure : ε) (next : α → Except ε β) :
    (throw failure : Except ε α) >>= next = .error failure :=
  rfl

/-- Behind a guard there is an answer exactly if nothing is wrong and there is one without it. -/
theorem guard_eq_ok_iff {wrong : Prop} [Decidable wrong] {failure : ε} {next : α → Except ε β}
    {other : Except ε β} {result : β} :
    (if wrong then (throw failure : Except ε α) >>= next else other) = .ok result ↔
      ¬ wrong ∧ other = .ok result := by
  split
  next bad => exact iff_of_false (fun answered => by cases answered) fun fine => fine.1 bad
  next fine => exact (and_iff_right fine).symm

/-- An answer that is given unless something is wrong is that answer. -/
theorem eq_of_unless {wrong : Prop} [Decidable wrong] {failure : ε} {value result : α}
    (answered : (if wrong then throw failure else pure value : Except ε α) = .ok result) :
    value = result := by
  split at answered
  · cases answered
  · exact Except.ok.inj answered

/-- What follows a result may be replaced by what makes no difference after a change. -/
theorem map_bind_congr {γ : Type} {next other : α → Except ε β} {f : β → γ}
    (same : ∀ value, (next value).map f = (other value).map f) :
    (first >>= next).map f = (first >>= other).map f := by
  cases first with
  | error failure => rfl
  | ok value => exact same value

/-- Results one by one are answers exactly if each of them is. -/
theorem mapM_eq_ok_iff {f : α → Except ε β} {values : List α} {results : List β} :
    values.mapM f = .ok results ↔ List.Forall₂ (fun value result => f value = .ok result)
      values results := by
  induction values generalizing results with
  | nil =>
      constructor
      · intro answered
        cases answered
        exact .nil
      · rintro ⟨⟩
        rfl
  | cons value values inductionHypothesis =>
      rw [List.mapM_cons]
      constructor
      · intro answered
        obtain ⟨result, here, answered⟩ := bind_eq_ok_iff.1 answered
        obtain ⟨others, there, answered⟩ := bind_eq_ok_iff.1 answered
        cases answered
        exact .cons here (inductionHypothesis.1 there)
      · rintro (_ | ⟨here, there⟩)
        exact bind_eq_ok_iff.2 ⟨_, here, bind_eq_ok_iff.2 ⟨_, inductionHypothesis.2 there, rfl⟩⟩

/-- Results one by one are a failure exactly if one of them is, all before it being answers. -/
theorem mapM_eq_error_iff {f : α → Except ε β} {values : List α} {failure : ε} :
    values.mapM f = .error failure ↔
      ∃ before value later, values = before ++ value :: later ∧
        (∀ other ∈ before, ∃ result, f other = .ok result) ∧ f value = .error failure := by
  induction values with
  | nil => simp [pure, Except.pure]
  | cons head values inductionHypothesis =>
      rw [List.mapM_cons, bind_eq_error_iff]
      constructor
      · rintro (here | ⟨result, answered, failed⟩)
        · exact ⟨[], head, values, rfl, by simp, here⟩
        · rcases bind_eq_error_iff.1 failed with there | ⟨results, -, failed⟩
          · obtain ⟨before, value, later, rfl, fine, refused⟩ := inductionHypothesis.1 there
            exact ⟨head :: before, value, later, rfl,
              List.forall_mem_cons.2 ⟨⟨result, answered⟩, fine⟩, refused⟩
          · cases failed
      · rintro ⟨_ | ⟨first, before⟩, value, later, split, fine, refused⟩
        · cases split
          exact .inl refused
        · cases split
          obtain ⟨⟨result, answered⟩, fine⟩ := List.forall_mem_cons.1 fine
          refine .inr ⟨result, answered, bind_eq_error_iff.2 (.inl ?_)⟩
          exact inductionHypothesis.2 ⟨before, value, later, rfl, fine, refused⟩

/-- A failure of results one by one is the failure of one of them. -/
theorem exists_of_mapM_eq_error {f : α → Except ε β} {values : List α} {failure : ε}
    (failed : values.mapM f = .error failure) : ∃ value ∈ values, f value = .error failure := by
  obtain ⟨before, value, later, rfl, -, here⟩ := mapM_eq_error_iff.1 failed
  exact ⟨value, List.mem_append_right _ List.mem_cons_self, here⟩

/-- A result that counts as an answer is that answer. -/
theorem eq_ok_of_toOption {value : α} (answered : first.toOption = some value) :
    first = .ok value := by
  cases first with
  | error failure => cases answered
  | ok other => exact congrArg Except.ok (Option.some.inj answered)

/-- A result that counts as an answer is one. -/
theorem exists_of_isSome_toOption (answered : first.toOption.isSome = true) :
    ∃ value, first = .ok value := by
  obtain ⟨value, answered⟩ := Option.isSome_iff_exists.1 answered
  exact ⟨value, eq_ok_of_toOption answered⟩

/-! ### Results that fail only in some ways -/

variable {allowed : ε → Prop}

/-- Whatever a result fails with is allowed. -/
def ErrsOnly (allowed : ε → Prop) (result : Except ε α) : Prop :=
  ∀ failure, result = .error failure → allowed failure

theorem errsOnly_ok (value : α) : ErrsOnly allowed (.ok value : Except ε α) := by
  intro failure failed
  cases failed

/-- A failure that is allowed is. -/
theorem errsOnly_error {failure : ε} (fits : allowed failure) :
    ErrsOnly allowed (.error failure : Except ε α) := by
  intro other failed
  cases failed
  exact fits

/-- Two results one after the other fail in the ways in which each does. -/
theorem ErrsOnly.bind {first : Except ε α} {next : α → Except ε β} (only : ErrsOnly allowed first)
    (onlyToo : ∀ value, ErrsOnly allowed (next value)) : ErrsOnly allowed (first >>= next) := by
  intro failure failed
  rcases bind_eq_error_iff.1 failed with here | ⟨value, -, there⟩
  · exact only failure here
  · exact onlyToo value failure there

/-- Results one by one fail in the ways in which each does. -/
theorem ErrsOnly.mapM {f : α → Except ε β} {values : List α}
    (only : ∀ value ∈ values, ErrsOnly allowed (f value)) :
    ErrsOnly allowed (values.mapM f) := by
  intro failure failed
  obtain ⟨value, present, here⟩ := exists_of_mapM_eq_error failed
  exact only value present failure here

end ReviewGroups.Result
