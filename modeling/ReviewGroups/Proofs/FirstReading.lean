/-
Module: ReviewGroups.Proofs.FirstReading
Purpose: Settings over any course of steps: from the first reading that succeeds until they are
  forgotten, everyone who asks is given the settings that the surroundings denoted at that reading,
  and nothing but asking and forgetting has to do with it. A course of steps is looked at from
  outside: `IsFirstReading` speaks of the places of the steps, the surroundings there and what was
  asked, and not of the store. That the store agrees with it is an induction on the places, one step
  at a time (`isFirstReading_succ_iff`).
Trusted boundary: none
Main exports: Setup.Step.Asks, Setup.surroundingsAt, Setup.outcomeAt, Setup.setupAt, Setup.Reads,
  Setup.Remembers, Setup.IsFirstReading, Setup.kept_eq_some_iff, Setup.KeepsFirstReading,
  Setup.first_reading_counts
-/
import Mathlib.Data.List.Induction
import ReviewGroups.Proofs.Result
import ReviewGroups.Setup

namespace ReviewGroups

/-! ### Asking once -/

namespace SettingsStore

variable {store : SettingsStore} {kept : Nat × Settings} {settings : Settings} {failure : Failure}

private theorem get_of_kept (known : store.kept = some kept) : store.get = (.ok kept, store) := by
  rw [get, known]

private theorem get_of_load (unknown : store.kept = none)
    (loaded : store.surroundings.load [] = .ok settings) :
    store.get =
      (.ok (store.readings, settings),
        { store with
          kept := some (store.readings, settings)
          readings := store.readings + 1 }) := by
  rw [get, unknown]
  simp only [loaded]

private theorem get_of_load_error (unknown : store.kept = none)
    (failed : store.surroundings.load [] = .error failure) :
    store.get = (.error failure, store) := by
  rw [get, unknown]
  simp only [failed]

/-- What is answered is what is kept afterwards. -/
theorem get_eq_ok_iff : store.get.1 = .ok kept ↔ store.get.2.kept = some kept := by
  cases known : store.kept with
  | some known =>
      rw [get_of_kept ‹_›, ‹store.kept = _›]
      simp
  | none =>
      cases loaded : store.surroundings.load [] with
      | ok settings => simp [get_of_load known loaded]
      | error failure => simp [get_of_load_error known loaded, known]

/-- After asking, what was kept is kept still, and where nothing was, what is read now. -/
theorem kept_get_iff {number : Nat} :
    store.get.2.kept = some (number, settings) ↔
      store.kept = some (number, settings) ∨
        store.kept = none ∧ store.surroundings.load [] = .ok settings ∧
          number = store.readings := by
  cases known : store.kept with
  | some known => simp [get_of_kept ‹_›, ‹store.kept = _›]
  | none =>
      cases loaded : store.surroundings.load [] with
      | ok read => simp [get_of_load known loaded, and_comm, eq_comm]
      | error failure => simp [get_of_load_error known loaded, known]

/-- Asking fails exactly if nothing is kept and the reading fails. -/
theorem get_eq_error_iff :
    store.get.1 = .error failure ↔
      store.kept = none ∧ store.surroundings.load [] = .error failure := by
  cases known : store.kept with
  | some known => simp [get_of_kept ‹_›]
  | none =>
      cases loaded : store.surroundings.load [] with
      | ok settings => simp [get_of_load known loaded]
      | error other => simp [get_of_load_error known loaded]

/-- Asking reads the surroundings at most once, and leaves them as they are. -/
theorem get_keeps :
    store.get.2.surroundings = store.surroundings ∧ store.readings ≤ store.get.2.readings := by
  cases known : store.kept with
  | some known => simp [get_of_kept ‹_›]
  | none =>
      cases loaded : store.surroundings.load [] with
      | ok settings => simp [get_of_load known loaded]
      | error failure => simp [get_of_load_error known loaded]

end SettingsStore

namespace Setup

/-! ### The course of the steps -/

/-- What a step makes of the surroundings. -/
def Step.change (surroundings : Surroundings) : Step → Surroundings
  | .setVariable name value => surroundings.setVariable name value
  | .writeFile text => { surroundings with file := text }
  | _ => surroundings

/-- A step asks for the settings that are kept: in its own right, or for a client that is given
none. -/
inductive Step.Asks : Step → Prop where
  | get : Asks .get
  | build (arguments : ReviewClient.Arguments) : Asks (.build arguments none)

/-- What a step that does not ask leaves of what is kept. -/
def Step.keep (kept : Option (Nat × Settings)) : Step → Option (Nat × Settings)
  | .reset => none
  | _ => kept

/-- What a step that asks makes of settings. -/
def Step.answer (number : Nat) (settings : Settings) : Step → Answer
  | .build arguments _ => .client (.new arguments settings)
  | _ => .kept number settings

/-- What a step that has nothing to do with what is kept comes to: only its own arguments and the
surroundings matter. -/
def Step.alone (surroundings : Surroundings) : Step → Option (Except Failure Answer)
  | .load arguments => some ((surroundings.load arguments).map .settings)
  | .configure arguments => some ((surroundings.configure arguments).map .settings)
  | .build arguments (some settings) => some (.ok (.client (.new arguments settings)))
  | _ => none

/-- The surroundings after so many steps. -/
def surroundingsAt (start : Surroundings) (steps : List Step) (moment : Nat) : Surroundings :=
  (steps.take moment).foldl Step.change start

/-- The settings that the surroundings denote after so many steps. -/
def denotedAt (start : Surroundings) (steps : List Step) (moment : Nat) :
    Except Failure Settings :=
  (surroundingsAt start steps moment).load []

/-- What the step at a place comes to, if there is one. -/
def outcomeAt (start : Surroundings) (steps : List Step) (place : Nat) :
    Option (Except Failure Answer) :=
  ((fresh start).run steps).1[place]?

/-- What there is after so many steps. -/
def setupAt (start : Surroundings) (steps : List Step) (moment : Nat) : Setup :=
  ((fresh start).run (steps.take moment)).2

/-- The step at a place asks for settings, and the surroundings denote these then. -/
structure Reads (start : Surroundings) (steps : List Step) (place : Nat) (settings : Settings) :
    Prop where
  asks : ∃ step, steps[place]? = some step ∧ step.Asks
  denotes : denotedAt start steps place = .ok settings

/-- From one place up to another nothing is forgotten. -/
def Remembers (steps : List Step) (first last : Nat) : Prop :=
  ∀ place, first ≤ place → place < last → steps[place]? ≠ some .reset

/-- Of the first `moment` steps, the one at `first` is the first to read settings with success since
settings were last forgotten. -/
structure IsFirstReading (start : Surroundings) (steps : List Step) (moment first : Nat)
    (settings : Settings) : Prop where
  before : first < moment
  reads : Reads start steps first settings
  since : Remembers steps first moment
  earliest : ∀ earlier < first, Remembers steps earlier first →
    ∀ other, ¬ Reads start steps earlier other

/-! ### First readings -/

section Readings

variable {start : Surroundings} {steps : List Step} {moment first other : Nat}
  {settings otherSettings : Settings}

/-- Since any reading that was not forgotten there has been a first one. -/
theorem exists_isFirstReading {earlier : Nat} (before : earlier < moment)
    (reads : Reads start steps earlier settings) (since : Remembers steps earlier moment) :
    ∃ first settings, IsFirstReading start steps moment first settings := by
  induction earlier using Nat.strongRecOn generalizing settings with
  | ind earlier inductionHypothesis =>
    -- If an earlier reading was not forgotten up to here, the first one is to be sought from there.
    by_cases sooner : ∃ place < earlier, Remembers steps place earlier ∧
        ∃ other, Reads start steps place other
    · obtain ⟨place, below, remembered, other, readsToo⟩ := sooner
      refine inductionHypothesis place below (by omega) readsToo ?_
      intro between least greatest
      by_cases late : earlier ≤ between
      · exact since between late greatest
      · exact remembered between least (by omega)
    · refine ⟨earlier, settings, before, reads, since, ?_⟩
      intro place below remembered other readsToo
      exact sooner ⟨place, below, remembered, other, readsToo⟩

/-- There is no more than one first reading. -/
theorem IsFirstReading.unique (isFirst : IsFirstReading start steps moment first settings)
    (isFirstToo : IsFirstReading start steps moment other otherSettings) : first = other := by
  have notSooner {first other : Nat} {settings otherSettings : Settings}
      (isFirst : IsFirstReading start steps moment first settings)
      (isFirstToo : IsFirstReading start steps moment other otherSettings) : ¬ first < other := by
    intro sooner
    refine isFirstToo.earliest first sooner ?_ settings isFirst.reads
    intro place least greatest
    exact isFirst.since place least (Nat.lt_trans greatest isFirstToo.before)
  have one := notSooner isFirst isFirstToo
  have two := notSooner isFirstToo isFirst
  omega

/-- One step more: unless it forgets, the first reading is the same as before, and where there was
none, the step itself is the first reading if it reads. -/
theorem isFirstReading_succ_iff :
    IsFirstReading start steps (moment + 1) first settings ↔
      steps[moment]? ≠ some .reset ∧
        (IsFirstReading start steps moment first settings ∨
          first = moment ∧ Reads start steps moment settings ∧
            ¬ ∃ other settings, IsFirstReading start steps moment other settings) := by
  constructor
  · rintro ⟨before, reads, since, earliest⟩
    refine ⟨since moment (by omega) (by omega), ?_⟩
    by_cases last : first = moment
    · subst last
      refine .inr ⟨rfl, reads, ?_⟩
      rintro ⟨other, settings, isFirst⟩
      exact earliest other isFirst.before isFirst.since settings isFirst.reads
    · refine .inl ⟨by omega, reads, ?_, earliest⟩
      intro place least greatest
      exact since place least (by omega)
  · rintro ⟨kept, ⟨before, reads, since, earliest⟩ | ⟨rfl, reads, none⟩⟩
    · refine ⟨by omega, reads, ?_, earliest⟩
      intro place least greatest
      by_cases last : place = moment
      · exact last ▸ kept
      · exact since place least (by omega)
    · refine ⟨by omega, reads, ?_, ?_⟩
      · intro place least greatest
        obtain rfl : place = first := by omega
        exact kept
      · intro earlier sooner remembered other readsToo
        exact none (exists_isFirstReading sooner readsToo remembered)

theorem IsFirstReading.none_before (isFirst : IsFirstReading start steps moment first settings) :
    ¬ ∃ other settings, IsFirstReading start steps first other settings := by
  rintro ⟨other, settings, earlier⟩
  exact isFirst.earliest other earlier.before earlier.since settings earlier.reads

end Readings

/-! ### One step -/

section Steps

variable {setup : Setup} {step : Step} {client : ReviewClient}

/-- A step that asks does so once, and goes on with what it is answered. -/
theorem perform_of_asks (asks : step.Asks) :
    (setup.perform step).1 = setup.store.get.1.map (fun kept => step.answer kept.1 kept.2) ∧
      (setup.perform step).2.store = setup.store.get.2 := by
  cases asks with
  | get => exact ⟨rfl, rfl⟩
  | build arguments =>
      simp only [perform]
      cases setup.store.get.1 <;> exact ⟨rfl, rfl⟩

/-- A step that does not ask changes the surroundings, or has what is kept forgotten, or does
neither. -/
private theorem store_perform (aside : ¬ step.Asks) :
    (setup.perform step).2.store =
      { surroundings := step.change setup.store.surroundings
        kept := step.keep setup.store.kept
        readings := setup.store.readings } := by
  cases step with
  | get => exact absurd .get aside
  | build arguments settings =>
      cases settings with
      | none => exact absurd (.build arguments) aside
      | some settings => rfl
  | _ => rfl

private theorem perform_of_failed {failure : Failure} (asks : step.Asks)
    (failed : (setup.perform step).1 = .error failure) : (setup.perform step).2 = setup := by
  rw [(perform_of_asks asks).1, Result.map_eq_error_iff, SettingsStore.get_eq_error_iff] at failed
  obtain ⟨unknown, failed⟩ := failed
  have unanswered := SettingsStore.get_of_load_error unknown failed
  cases asks with
  | get => simp only [perform, unanswered]
  | build arguments => simp only [perform, unanswered]

/-- A step that has nothing to do with what is kept comes to what it does alone, and leaves all that
concerns settings as it is. -/
theorem perform_of_alone {outcome : Except Failure Answer}
    (alone : step.alone setup.store.surroundings = some outcome) :
    (setup.perform step).1 = outcome ∧ (setup.perform step).2.store = setup.store := by
  cases step with
  | load arguments | configure arguments =>
      cases alone
      exact ⟨rfl, rfl⟩
  | build arguments settings =>
      cases settings with
      | none => cases alone
      | some settings =>
          cases alone
          exact ⟨rfl, rfl⟩
  | _ => cases alone

private theorem surroundings_perform :
    (setup.perform step).2.store.surroundings = step.change setup.store.surroundings := by
  by_cases asks : step.Asks
  · rw [(perform_of_asks asks).2, SettingsStore.get_keeps.1]
    cases asks <;> rfl
  · rw [store_perform asks]

/-- Unless it forgets, a step leaves what is kept; where nothing is, one that asks keeps what it
reads. -/
theorem kept_perform_iff {number : Nat} {settings : Settings} :
    (setup.perform step).2.store.kept = some (number, settings) ↔
      step ≠ .reset ∧
        (setup.store.kept = some (number, settings) ∨
          step.Asks ∧ setup.store.kept = none ∧
            setup.store.surroundings.load [] = .ok settings ∧ number = setup.store.readings) := by
  by_cases asks : step.Asks
  · have other : step ≠ .reset := by
      rintro rfl
      cases asks
    rw [(perform_of_asks asks).2, SettingsStore.kept_get_iff]
    simp only [other, asks, ne_eq, not_false_eq_true, true_and]
  · rw [store_perform asks]
    simp only [asks, false_and, or_false]
    cases step <;> simp [Step.keep]

private theorem readings_perform : setup.store.readings ≤
    (setup.perform step).2.store.readings := by
  by_cases asks : step.Asks
  · rw [(perform_of_asks asks).2]
    exact SettingsStore.get_keeps.2
  · exact Nat.le_of_eq (congrArg SettingsStore.readings (store_perform asks)).symm

private theorem clients_perform : setup.clients <+: (setup.perform step).2.clients := by
  cases step with
  | build arguments settings =>
      cases settings with
      | some settings => exact List.prefix_append _ _
      | none =>
          simp only [perform]
          cases setup.store.get.1 with
          | ok kept => exact List.prefix_append _ _
          | error failure => exact List.prefix_rfl
  | _ => exact List.prefix_rfl

/-- A client that is answered comes after all others. -/
theorem clients_of_answered (answered : (setup.perform step).1 = .ok (.client client)) :
    (setup.perform step).2.clients = setup.clients ++ [client] := by
  cases step with
  | build arguments settings =>
      cases settings with
      | some settings =>
          cases answered
          rfl
      | none =>
          simp only [perform] at answered ⊢
          cases asked : setup.store.get.1 with
          | ok kept =>
              simp only [asked] at answered ⊢
              cases answered
              rfl
          | error failure =>
              simp only [asked] at answered
              cases answered
  | get =>
      obtain ⟨kept, -, other⟩ := Result.map_eq_ok_iff.1 answered
      cases other
  | load arguments | configure arguments =>
      obtain ⟨settings, -, other⟩ := Result.map_eq_ok_iff.1 answered
      cases other
  | _ => cases answered

end Steps

/-! ### Any number of steps -/

section Runs

variable {start : Surroundings} {steps : List Step} {step : Step} {place moment later first : Nat}
  {settings : Settings} {client : ReviewClient}

private theorem run_append_singleton (setup : Setup) (steps : List Step) (step : Step) :
    setup.run (steps ++ [step]) =
      ((setup.run steps).1 ++ [((setup.run steps).2.perform step).1],
        ((setup.run steps).2.perform step).2) := by
  induction steps generalizing setup with
  | nil => rfl
  | cons head steps inductionHypothesis => simp [run, inductionHypothesis]

/-- Every step comes to something. -/
theorem length_run (setup : Setup) (steps : List Step) :
    (setup.run steps).1.length = steps.length := by
  induction steps generalizing setup with
  | nil => rfl
  | cons head steps inductionHypothesis => simp [run, inductionHypothesis]

/-- Later steps change nothing about what the earlier ones come to. -/
theorem run_prefix (setup : Setup) (steps more : List Step) :
    (setup.run steps).1 <+: (setup.run (steps ++ more)).1 := by
  induction more using List.reverseRecOn with
  | nil =>
      exact (List.append_nil steps).symm ▸ List.prefix_rfl
  | append_singleton more step inductionHypothesis =>
      rw [← List.append_assoc, run_append_singleton]
      exact inductionHypothesis.trans (List.prefix_append _ _)

private theorem take_succ_of_getElem? (there : steps[place]? = some step) :
    steps.take (place + 1) = steps.take place ++ [step] := by
  rw [List.take_add_one, there]
  rfl

theorem setupAt_succ (there : steps[place]? = some step) :
    setupAt start steps (place + 1) = ((setupAt start steps place).perform step).2 := by
  unfold setupAt
  rw [take_succ_of_getElem? there, run_append_singleton]

/-- Where there are no more steps, nothing happens. -/
theorem setupAt_succ_of_none (past : steps[moment]? = none) :
    setupAt start steps (moment + 1) = setupAt start steps moment := by
  have short := List.getElem?_eq_none_iff.1 past
  unfold setupAt
  rw [List.take_of_length_le short, List.take_of_length_le (Nat.le_succ_of_le short)]

private theorem outcomeAt_eq (there : steps[place]? = some step) :
    outcomeAt start steps place = some ((setupAt start steps place).perform step).1 := by
  have below : place < steps.length := (List.getElem?_eq_some_iff.1 there).1
  have upTo : (steps.take place).length = place := List.length_take_of_le (Nat.le_of_lt below)
  obtain ⟨rest, whole⟩ := run_prefix (fresh start) (steps.take (place + 1)) (steps.drop (place + 1))
  rw [List.take_append_drop, take_succ_of_getElem? there, run_append_singleton] at whole
  have counted : ((fresh start).run (steps.take place)).1.length = place := by
    rw [length_run, upTo]
  unfold outcomeAt setupAt
  rw [← whole, List.append_assoc, List.getElem?_append_right (Nat.le_of_eq counted), counted,
    Nat.sub_self]
  rfl

/-- The surroundings are what the steps made of them. -/
theorem surroundings_setupAt :
    (setupAt start steps moment).store.surroundings = surroundingsAt start steps moment := by
  unfold setupAt surroundingsAt
  induction steps.take moment using List.reverseRecOn with
  | nil => rfl
  | append_singleton before step inductionHypothesis =>
      rw [run_append_singleton, List.foldl_append, ← inductionHypothesis]
      exact surroundings_perform

/-- What every step keeps from before is kept over any number of them. -/
theorem setupAt_induction (keeps : Setup → Setup → Prop) (refl : ∀ setup, keeps setup setup)
    (trans : ∀ one two three, keeps one two → keeps two three → keeps one three)
    (perform : ∀ setup step, keeps setup (setup.perform step).2) (notSooner : moment ≤ later) :
    keeps (setupAt start steps moment) (setupAt start steps later) := by
  induction notSooner with
  | refl => exact refl _
  | @step later _ inductionHypothesis =>
      refine trans _ _ _ inductionHypothesis ?_
      cases there : steps[later]? with
      | none =>
          rw [setupAt_succ_of_none there]
          exact refl _
      | some step =>
          rw [setupAt_succ there]
          exact perform _ _

end Runs

/-! ### What is kept -/

section Kept

variable {start : Surroundings} {steps : List Step} {step : Step} {place moment first other : Nat}
  {number : Nat} {settings otherSettings : Settings} {answer : Answer} {failure : Failure}

/-- A step that asks is a reading of just what the surroundings denote. -/
theorem reads_iff (there : steps[place]? = some step) :
    Reads start steps place settings ↔ step.Asks ∧ denotedAt start steps place = .ok settings := by
  constructor
  · rintro ⟨⟨same, thereToo, asks⟩, denotes⟩
    obtain rfl : step = same := Option.some.inj (there.symm.trans thereToo)
    exact ⟨asks, denotes⟩
  · rintro ⟨asks, denotes⟩
    exact ⟨⟨step, there, asks⟩, denotes⟩

private theorem not_isFirstReading_zero : ¬ IsFirstReading start steps 0 first settings :=
  fun isFirst => Nat.not_lt_zero first isFirst.before

/-- Where all that is kept is first readings, nothing is kept just if there was none. -/
theorem kept_eq_none_iff_of_kept
    (onlyFirst : ∀ number settings,
      (setupAt start steps moment).store.kept = some (number, settings) ↔
        ∃ first, IsFirstReading start steps moment first settings ∧
          number = (setupAt start steps first).store.readings) :
    (setupAt start steps moment).store.kept = none ↔
      ¬ ∃ first settings, IsFirstReading start steps moment first settings := by
  constructor
  · rintro unknown ⟨first, settings, isFirst⟩
    have known := (onlyFirst _ settings).2 ⟨first, isFirst, rfl⟩
    rw [unknown] at known
    cases known
  · intro never
    cases known : (setupAt start steps moment).store.kept with
    | none => rfl
    | some kept =>
        obtain ⟨first, isFirst, -⟩ := (onlyFirst kept.1 kept.2).1 known
        exact absurd ⟨first, kept.2, isFirst⟩ never

/-- What is kept after any number of steps is what was read at the first reading since settings were
forgotten, under the number that this reading had. -/
theorem kept_eq_some_iff :
    (setupAt start steps moment).store.kept = some (number, settings) ↔
      ∃ first, IsFirstReading start steps moment first settings ∧
        number = (setupAt start steps first).store.readings := by
  induction moment generalizing number settings with
  | zero =>
      constructor
      · intro kept
        cases kept
      · rintro ⟨first, isFirst, -⟩
        exact absurd isFirst not_isFirstReading_zero
  | succ moment inductionHypothesis =>
      cases there : steps[moment]? with
      | none =>
          have noReading : ¬ Reads start steps moment settings := by
            rintro ⟨⟨step, thereToo, -⟩, -⟩
            rw [there] at thereToo
            cases thereToo
          rw [setupAt_succ_of_none there, inductionHypothesis]
          simp [isFirstReading_succ_iff, there, noReading]
      | some step =>
          -- The step reads only if nothing is kept, so the hypothesis is needed for that too.
          rw [setupAt_succ there, kept_perform_iff, inductionHypothesis, surroundings_setupAt,
            kept_eq_none_iff_of_kept fun _ _ => inductionHypothesis]
          simp only [isFirstReading_succ_iff, reads_iff there, there, denotedAt]
          constructor
          · rintro ⟨remembered, ⟨first, isFirst, rfl⟩ | ⟨asks, never, loaded, rfl⟩⟩
            · exact ⟨first, ⟨fun same => remembered (Option.some.inj same), .inl isFirst⟩, rfl⟩
            · exact ⟨moment, ⟨fun same => remembered (Option.some.inj same),
                .inr ⟨rfl, ⟨asks, loaded⟩, never⟩⟩, rfl⟩
          · rintro ⟨first, ⟨remembered, isFirst | ⟨rfl, ⟨asks, loaded⟩, never⟩⟩, rfl⟩
            · exact ⟨fun same => remembered (congrArg some same), .inl ⟨first, isFirst, rfl⟩⟩
            · exact ⟨fun same => remembered (congrArg some same), .inr ⟨asks, never, loaded, rfl⟩⟩

theorem kept_eq_none_iff :
    (setupAt start steps moment).store.kept = none ↔
      ¬ ∃ first settings, IsFirstReading start steps moment first settings :=
  kept_eq_none_iff_of_kept fun _ _ => kept_eq_some_iff

theorem IsFirstReading.denotes (isFirst : IsFirstReading start steps moment first settings) :
    denotedAt start steps first = .ok settings :=
  isFirst.reads.denotes

/-- A first reading is counted. -/
theorem IsFirstReading.readings_lt (isFirst : IsFirstReading start steps moment first settings) :
    (setupAt start steps first).store.readings <
      (setupAt start steps (first + 1)).store.readings := by
  obtain ⟨step, there, asks⟩ := isFirst.reads.asks
  have unknown := kept_eq_none_iff.2 isFirst.none_before
  have loaded : (setupAt start steps first).store.surroundings.load [] = .ok settings := by
    rw [surroundings_setupAt]
    exact isFirst.denotes
  rw [setupAt_succ there, (perform_of_asks asks).2, SettingsStore.get_of_load unknown loaded]
  exact Nat.lt_succ_self _

theorem readings_setupAt_le (notSooner : moment ≤ other) :
    (setupAt start steps moment).store.readings ≤ (setupAt start steps other).store.readings :=
  setupAt_induction (fun before after => before.store.readings ≤ after.store.readings)
    (fun _ => Nat.le_refl _) (fun _ _ _ => Nat.le_trans) (fun _ _ => readings_perform) notSooner

/-- Different first readings, also of different times, have different numbers. -/
theorem IsFirstReading.readings_inj {later : Nat}
    (isFirst : IsFirstReading start steps moment first settings)
    (isFirstToo : IsFirstReading start steps later other otherSettings)
    (same : (setupAt start steps first).store.readings =
      (setupAt start steps other).store.readings) :
    first = other := by
  have counted := isFirst.readings_lt
  have countedToo := isFirstToo.readings_lt
  rcases Nat.lt_trichotomy first other with sooner | same | sooner
  · have upwards : (setupAt start steps (first + 1)).store.readings ≤
        (setupAt start steps other).store.readings := readings_setupAt_le sooner
    omega
  · exact same
  · have upwards : (setupAt start steps (other + 1)).store.readings ≤
        (setupAt start steps first).store.readings := readings_setupAt_le sooner
    omega

end Kept

/-! ### Who is given what -/

section Answers

variable {start : Surroundings} {steps : List Step} {step : Step} {place moment : Nat}
  {answer : Answer} {failure : Failure} {client : ReviewClient}

/-- A step that asks is given what was read first, be it by itself. -/
theorem outcomeAt_eq_ok_iff (there : steps[place]? = some step) (asks : step.Asks) :
    outcomeAt start steps place = some (.ok answer) ↔
      ∃ first settings, IsFirstReading start steps (place + 1) first settings ∧
        answer = step.answer (setupAt start steps first).store.readings settings := by
  have after : (setupAt start steps (place + 1)).store =
      (setupAt start steps place).store.get.2 := by
    rw [setupAt_succ there, (perform_of_asks asks).2]
  rw [outcomeAt_eq there, (perform_of_asks asks).1, Option.some.injEq, Result.map_eq_ok_iff]
  constructor
  · rintro ⟨⟨number, settings⟩, asked, rfl⟩
    rw [SettingsStore.get_eq_ok_iff, ← after] at asked
    obtain ⟨first, isFirst, rfl⟩ := kept_eq_some_iff.1 asked
    exact ⟨first, settings, isFirst, rfl⟩
  · rintro ⟨first, settings, isFirst, rfl⟩
    have kept := kept_eq_some_iff.2 ⟨first, isFirst, rfl⟩
    rw [after, ← SettingsStore.get_eq_ok_iff] at kept
    exact ⟨_, kept, rfl⟩

/-- A step that asks fails exactly if nothing was read before and the surroundings denote nothing
right now, and with their own failure. -/
private theorem outcomeAt_eq_error_iff (there : steps[place]? = some step) (asks : step.Asks) :
    outcomeAt start steps place = some (.error failure) ↔
      (¬ ∃ first settings, IsFirstReading start steps place first settings) ∧
        denotedAt start steps place = .error failure := by
  rw [outcomeAt_eq there, (perform_of_asks asks).1, Option.some.injEq, Result.map_eq_error_iff,
    SettingsStore.get_eq_error_iff, kept_eq_none_iff, surroundings_setupAt, denotedAt]

/-- A client that was answered stays at its place among the clients, whatever is done later. -/
theorem client_of_outcomeAt (answered : outcomeAt start steps place = some (.ok (.client client)))
    (later : place < moment) :
    (setupAt start steps moment).clients[(setupAt start steps place).clients.length]? =
      some client := by
  cases there : steps[place]? with
  | none =>
      have past := List.getElem?_eq_none_iff.1 there
      rw [outcomeAt, List.getElem?_eq_none (by rwa [length_run])] at answered
      cases answered
  | some step =>
      rw [outcomeAt_eq there, Option.some.injEq] at answered
      have upTo : (setupAt start steps (place + 1)).clients <+:
          (setupAt start steps moment).clients :=
        setupAt_induction (fun before after => before.clients <+: after.clients)
          (fun _ => List.prefix_rfl) (fun _ _ _ => List.IsPrefix.trans)
          (fun _ _ => clients_perform) later
      obtain ⟨more, whole⟩ := upTo
      rw [setupAt_succ there, clients_of_answered answered] at whole
      rw [← whole]
      simp

end Answers

/-- How settings are kept over a course of steps. -/
structure KeepsFirstReading (start : Surroundings) (steps : List Step) : Prop where
  /-- Who asks is given, or builds from, the settings of the first reading since settings were last
  forgotten, which are those the surroundings denoted at that place. -/
  answered : ∀ place step answer, steps[place]? = some step → step.Asks →
    (outcomeAt start steps place = some (.ok answer) ↔
      ∃ first settings, IsFirstReading start steps (place + 1) first settings ∧
        answer = step.answer (setupAt start steps first).store.readings settings)
  /-- Two answers are the same settings exactly if they are of the same reading. -/
  same : ∀ place number settings other otherNumber otherSettings,
    steps[place]? = some .get → steps[other]? = some .get →
    outcomeAt start steps place = some (.ok (.kept number settings)) →
    outcomeAt start steps other = some (.ok (.kept otherNumber otherSettings)) →
    (number = otherNumber ↔
      ∃ first, IsFirstReading start steps (place + 1) first settings ∧
        IsFirstReading start steps (other + 1) first otherSettings)
  /-- Who asks fails exactly if nothing is kept and the surroundings denote nothing just then. -/
  failed : ∀ place step failure, steps[place]? = some step → step.Asks →
    (outcomeAt start steps place = some (.error failure) ↔
      (¬ ∃ first settings, IsFirstReading start steps place first settings) ∧
        denotedAt start steps place = .error failure)
  /-- To ask in vain changes nothing, so the next one who asks does so anew. -/
  vain : ∀ place step failure, steps[place]? = some step → step.Asks →
    outcomeAt start steps place = some (.error failure) →
    setupAt start steps (place + 1) = setupAt start steps place
  /-- Settings by arguments, and clients that are given settings, have nothing to do with what is
  kept: they do not depend on it and do not change it. -/
  alone : ∀ place step outcome, steps[place]? = some step →
    step.alone (surroundingsAt start steps place) = some outcome →
    outcomeAt start steps place = some outcome ∧
      (setupAt start steps (place + 1)).store = (setupAt start steps place).store
  /-- A client stays as it was built, whatever is done later. -/
  built : ∀ place client moment, outcomeAt start steps place = some (.ok (.client client)) →
    place < moment →
    (setupAt start steps moment).clients[(setupAt start steps place).clients.length]? = some client

/-- Whatever the steps are, the first reading since settings were last forgotten is the one that
counts. -/
theorem first_reading_counts (start : Surroundings) (steps : List Step) :
    KeepsFirstReading start steps := by
  constructor
  case answered => exact fun place step answer there asks => outcomeAt_eq_ok_iff there asks
  case same =>
    intro place number settings other otherNumber otherSettings there thereToo answered answeredToo
    obtain ⟨first, read, isFirst, own⟩ := (outcomeAt_eq_ok_iff there .get).1 answered
    obtain ⟨firstToo, readToo, isFirstToo, ownToo⟩ :=
      (outcomeAt_eq_ok_iff thereToo .get).1 answeredToo
    cases own
    cases ownToo
    constructor
    · intro same
      obtain rfl := isFirst.readings_inj isFirstToo same
      exact ⟨first, isFirst, isFirstToo⟩
    · rintro ⟨common, isFirstHere, isFirstThere⟩
      rw [isFirst.unique isFirstHere, isFirstToo.unique isFirstThere]
  case failed => exact fun place step failure there asks => outcomeAt_eq_error_iff there asks
  case vain =>
    intro place step failure there asks failed
    rw [outcomeAt_eq there, Option.some.injEq] at failed
    rw [setupAt_succ there, perform_of_failed asks failed]
  case alone =>
    intro place step outcome there alone
    rw [← surroundings_setupAt] at alone
    rw [outcomeAt_eq there, setupAt_succ there, Option.some.injEq]
    exact perform_of_alone alone
  case built => exact fun place client moment answered later => client_of_outcomeAt answered later

end Setup

end ReviewGroups
