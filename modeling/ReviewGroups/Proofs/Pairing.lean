/-
Module: ReviewGroups.Proofs.Pairing
Purpose: Lists whose elements are related one by one, as far as the standard library does not say it
  already: when a list of partners exists, and how membership goes over from one list to the other.
Trusted boundary: none
Main exports: exists_forall₂_iff, exists_mem_of_forall₂, exists_mem_iff_of_forall₂,
  forall₂_congr_of_mem
-/
import Mathlib.Data.List.Forall2

namespace ReviewGroups

variable {α β : Type} {related : α → β → Prop}

/-- A list has a list of partners exactly if every element has a partner. -/
theorem exists_forall₂_iff {elements : List α} :
    (∃ partners, List.Forall₂ related elements partners) ↔
      ∀ element ∈ elements, ∃ partner, related element partner := by
  induction elements with
  | nil => simp
  | cons element elements inductionHypothesis =>
      rw [List.forall_mem_cons, ← inductionHypothesis]
      constructor
      · rintro ⟨_, head | ⟨head, rest⟩⟩
        exact ⟨⟨_, head⟩, ⟨_, rest⟩⟩
      · rintro ⟨⟨partner, head⟩, ⟨partners, rest⟩⟩
        exact ⟨partner :: partners, .cons head rest⟩

/-- Every partner is the partner of an element. -/
theorem exists_mem_of_forall₂ {elements : List α} {partners : List β} {partner : β}
    (paired : List.Forall₂ related elements partners) (present : partner ∈ partners) :
    ∃ element ∈ elements, related element partner := by
  induction paired with
  | nil => cases present
  | cons head rest inductionHypothesis =>
      rcases List.mem_cons.1 present with rfl | later
      · exact ⟨_, List.mem_cons_self, head⟩
      · obtain ⟨element, there, both⟩ := inductionHypothesis later
        exact ⟨element, List.mem_cons_of_mem _ there, both⟩

/-- Where partners agree on a property, one list has an element with it exactly if the other has. -/
theorem exists_mem_iff_of_forall₂ {elements : List α} {partners : List β} {here : α → Prop}
    {there : β → Prop} (agree : ∀ element partner, related element partner →
      (here element ↔ there partner)) (paired : List.Forall₂ related elements partners) :
    (∃ element ∈ elements, here element) ↔ ∃ partner ∈ partners, there partner := by
  induction paired with
  | nil => simp
  | cons head rest inductionHypothesis =>
      rw [List.exists_mem_cons_iff, List.exists_mem_cons_iff, agree _ _ head, inductionHypothesis]

/-- Where two relations agree on the elements of a list, the list has the same partners by both. -/
theorem forall₂_congr_of_mem {other : α → β → Prop} {elements : List α} {partners : List β}
    (agree : ∀ element ∈ elements, ∀ partner, related element partner ↔ other element partner) :
    List.Forall₂ related elements partners ↔ List.Forall₂ other elements partners := by
  induction elements generalizing partners with
  | nil => cases partners <;> simp
  | cons element elements inductionHypothesis =>
      rw [List.forall_mem_cons] at agree
      cases partners with
      | nil => simp
      | cons partner partners =>
          rw [List.forall₂_cons, List.forall₂_cons, agree.1, inductionHypothesis agree.2]

end ReviewGroups
