/-
Module: ReviewGroups.Group.DisplayOption
Purpose: The options that control how much detail group entities carry.
Trusted boundary: none
Main exports: DisplayOption, DisplayOption.name, DisplayOption.ofName?, DisplayOption.ofWord?,
  DisplayOption.canonical
-/
import ReviewGroups.Text.Upper

namespace ReviewGroups

/-- How much detail group entities carry. -/
inductive DisplayOption where
  | members
  | includes
deriving Repr, Inhabited, DecidableEq

namespace DisplayOption

/-- Every option, in the order of declaration. -/
def all : List DisplayOption := [.members, .includes]

/-- The name the server knows an option by. -/
def name : DisplayOption → String
  | .members => "MEMBERS"
  | .includes => "INCLUDES"

/-- The option with exactly this name. -/
def ofName? (name : String) : Option DisplayOption :=
  all.find? fun option => option.name = name

/-- The option that a word names in any case. -/
def ofWord? (word : String) : Option DisplayOption :=
  ofName? (Text.upper word)

/-- The given options in the order of declaration, each once. -/
def canonical (options : List DisplayOption) : List DisplayOption :=
  all.filter (· ∈ options)

/-- No option is missing from the list of all. -/
theorem mem_all (option : DisplayOption) : option ∈ all := by
  cases option <;> decide

@[simp] theorem ofName?_name (option : DisplayOption) : ofName? option.name = some option := by
  cases option <;> decide

/-- An option is found under no name but its own. -/
theorem name_of_ofName? {name : String} {option : DisplayOption}
    (found : ofName? name = some option) : option.name = name := by
  simpa using List.find?_some found

@[simp] theorem mem_canonical {option : DisplayOption} {options : List DisplayOption} :
    option ∈ canonical options ↔ option ∈ options := by
  simp [canonical, mem_all]

end DisplayOption

end ReviewGroups
