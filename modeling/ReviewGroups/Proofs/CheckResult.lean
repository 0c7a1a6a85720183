/-
Module: ReviewGroups.Proofs.CheckResult
Purpose: Checks of several parts, taken apart into the checks of the parts. A check goes on after an
  issue, so that it collects all of them; for what is valid that makes no difference, and these
  lemmas say so, form by form. Nothing is said about which issues are found.
Trusted boundary: none
Main exports: Check.seq_eq_valid_iff, Check.map_eq_valid_iff, Check.within_eq_valid_iff,
  Check.eachFrom_eq_valid_iff, Check.field_eq_valid_iff_entry, Check.optional_of_ne_null,
  Check.optional_eq_valid_iff
-/
import Mathlib.Data.List.Forall2
import ReviewGroups.Check.Record

namespace ReviewGroups.Check

variable {α β : Type}

/-- Side by side, two checks pass exactly if both do. -/
@[simp] theorem seq_eq_valid_iff {first : Check (α → β)} {second : Check α} {result : β} :
    first <*> second = .valid result ↔
      ∃ f value, first = .valid f ∧ second = .valid value ∧ f value = result := by
  change first.seq second = _ ↔ _
  cases first <;> cases second <;> simp [seq]

/-- A change of the value does not decide whether a check passes. -/
@[simp] theorem map_eq_valid_iff {f : α → β} {check : Check α} {result : β} :
    f <$> check = .valid result ↔ ∃ value, check = .valid value ∧ f value = result := by
  change check.map f = _ ↔ _
  cases check <;> simp [map]

theorem seq_eq_valid {first : Check (α → β)} {second : Check α} {f : α → β} {value : α}
    (passed : first = .valid f) (passedToo : second = .valid value) :
    first <*> second = .valid (f value) :=
  seq_eq_valid_iff.2 ⟨f, value, passed, passedToo, rfl⟩

/-- Where a part stands does not decide whether its check passes. -/
@[simp] theorem within_eq_valid_iff {place : Place} {check : Check α} {value : α} :
    check.within place = .valid value ↔ check = .valid value := by
  cases check <;> simp [within]

/-- Items pass exactly if each of them does. -/
theorem eachFrom_eq_valid_iff {check : Value → Check α} {start : Nat} {values : List Value}
    {results : List α} :
    eachFrom check start values = .valid results ↔
      List.Forall₂ (fun value result => check value = .valid result) values results := by
  induction values generalizing start results with
  | nil => cases results <;> simp [eachFrom]
  | cons value values inductionHypothesis =>
      constructor
      · intro passed
        simp only [eachFrom, seq_eq_valid_iff, map_eq_valid_iff, within_eq_valid_iff] at passed
        obtain ⟨_, rest, ⟨first, head, rfl⟩, others, rfl⟩ := passed
        exact .cons head (inductionHypothesis.1 others)
      · rintro (_ | ⟨head, rest⟩)
        simp [eachFrom, head, inductionHypothesis.2 rest]

/-- The value that is found for a field, if there is one, passes its check; otherwise the field has
its default. -/
theorem field_eq_valid_iff_entry {name : String} {default result : α}
    {check : Value → Check α} {entries : Entries} :
    field name default check entries = .valid result ↔
      (∃ value, Value.entry? name entries = some value ∧ check value = .valid result) ∨
        Value.entry? name entries = none ∧ default = result := by
  unfold field
  cases Value.entry? name entries <;> simp

/-- A value other than null is checked for what it should be. -/
theorem optional_of_ne_null {check : Value → Check α} {value : Value} (notNull : value ≠ .null) :
    optional check value = some <$> check value := by
  cases value with
  | null => exact absurd rfl notNull
  | _ => rfl

/-- A value other than null passes an optional check as it passes the check itself. -/
theorem optional_eq_valid_iff {check : Value → Check α} {value : Value} {result : Option α}
    (notNull : value ≠ .null) :
    optional check value = .valid result ↔
      ∃ valid, check value = .valid valid ∧ result = some valid := by
  rw [optional_of_ne_null notNull, map_eq_valid_iff]
  simp only [eq_comm]

end ReviewGroups.Check
