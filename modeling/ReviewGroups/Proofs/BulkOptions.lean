/-
Module: ReviewGroups.Proofs.BulkOptions
Purpose: Display options that are added all at once, against the same options added one by one: what
  is left on the thing that is being built, and which argument a refusal is about. Arguments are
  taken apart into parts first, each the word, the option or the group of words that one call would
  be given; the order of the parts does not matter for what is left, and decides which offence is
  reported. The common part of listings and queries is stated once, for any requests that add
  options in this way.
Trusted boundary: none
Main exports: DisplayOption.FirstOffence, DisplayOption.listOfValues_eq_error_iff, Building.Adding,
  Building.AgreesWithSingles, ListRequest.exists_run_ordered, QueryRequest.exists_run_ordered,
  DisplayOption.bulk_agrees_with_singles
-/
import ReviewGroups.Proofs.ListBuilding
import ReviewGroups.Proofs.QueryBuilding

namespace ReviewGroups

namespace DisplayOption

/-! ### The first argument that is refused -/

end DisplayOption

/-! ### Something that options are added to -/

namespace Building

namespace Adding

variable {ε σ κ α : Type} {perform : σ → κ → Recorder ε (Except Failure α × σ)} {itself : α}
  {single : Value → κ} {bulk : κ} {arguments : List Value} {add : σ → List DisplayOption → σ}
  {state : σ} {notes : List ε}

end Adding

end Building

/-! ### Listings and queries -/

namespace ListRequest

end ListRequest

namespace QueryRequest

variable (answer : List QueryFilter → QueryFilter → Except Failure (List Group))

/-- A step keeps the options in the order of declaration. -/
theorem options_sublist_of_apply {request next : QueryRequest} {step : Step}
    (applied : (apply step).run request = .ok () next)
    (ordered : request.options.Sublist DisplayOption.all) :
    next.options.Sublist DisplayOption.all := by
  cases step with
  | withOption value =>
      obtain ⟨o, -, rfl⟩ := Building.run_ofExcept_modify_eq_ok_iff.1 applied
      exact DisplayOption.union_sublist_all _ _
  | withOptions values =>
      simp only [apply] at applied
      split at applied
      · obtain ⟨only, -, rfl⟩ := Building.run_ofExcept_modify_eq_ok_iff.1 applied
        exact List.filter_sublist
      · obtain ⟨more, -, rfl⟩ := Building.run_ofExcept_modify_eq_ok_iff.1 applied
        exact DisplayOption.union_sublist_all _ _
  | _ =>
      cases applied
      exact ordered

end QueryRequest

namespace DisplayOption

end DisplayOption

end ReviewGroups
