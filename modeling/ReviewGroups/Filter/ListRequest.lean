/-
Module: ReviewGroups.Filter.ListRequest
Purpose: Building a listing step by step, and carrying it out.
Trusted boundary: none
Main exports: ListRequest, ListRequest.Step, ListRequest.apply, ListRequest.filter, ListSource,
  ListRequest.getAsMap, ListRequest.get, ListRequest.Call, ListRequest.perform
-/
import ReviewGroups.Check.Record
import ReviewGroups.Filter.Building
import ReviewGroups.Filter.Options

namespace ReviewGroups

/-- A listing that is being built.  The options are a set, kept in the order of declaration; the
other parts are as the caller gave them and are checked when the listing is carried out. -/
structure ListRequest where
  options : List DisplayOption
  projects : List Value
  groups : List Value
  visibleToAll : Value
  user : Value
  owned : Value
  limit : Value
  start : Value
  substring : Value
  suggest : Value
deriving Repr, Inhabited

namespace ListRequest

/-- A listing of everything. -/
def new : ListRequest :=
  { options := []
    projects := []
    groups := []
    visibleToAll := .bool false
    user := .null
    owned := .bool false
    limit := .int 0
    start := .int 0
    substring := .null
    suggest := .null }

/-- The steps that change a listing. -/
inductive Step where
  | addOption (value : Value)
  | addOptions (values : List Value)
  | withProject (value : Value)
  | addGroup (value : Value)
  | withVisibleToAll (value : Value)
  | withUser (value : Value)
  | withOwned (value : Value)
  | withLimit (value : Value)
  | withStart (value : Value)
  | withSubstring (value : Value)
  | withSuggest (value : Value)
deriving Repr, Inhabited

/-- Take a step.  Options and collections are gathered; the last value of every other part counts.
What a step names is read as a whole before anything is changed. -/
def apply : Step → EStateM Misuse ListRequest Unit
  | .addOption value => do
      let o ← ofExcept (DisplayOption.ofValue value)
      modify fun request => { request with options := DisplayOption.union request.options [o] }
  | .addOptions values => do
      let more ← ofExcept (DisplayOption.listOfValues values)
      modify fun request => { request with options := DisplayOption.union request.options more }
  | .withProject value =>
      modify fun request => { request with projects := request.projects ++ [value] }
  | .addGroup value => modify fun request => { request with groups := request.groups ++ [value] }
  | .withVisibleToAll value => modify fun request => { request with visibleToAll := value }
  | .withUser value => modify fun request => { request with user := value }
  | .withOwned value => modify fun request => { request with owned := value }
  | .withLimit value => modify fun request => { request with limit := value }
  | .withStart value => modify fun request => { request with start := value }
  | .withSubstring value => modify fun request => { request with substring := value }
  | .withSuggest value => modify fun request => { request with suggest := value }

/-- The parts of a listing by name, as they were given. -/
def entries (request : ListRequest) : Keyed Value :=
  [("options", DisplayOption.toTuple request.options),
    ("projects", .items .tuple request.projects),
    ("groups", .items .tuple request.groups),
    ("visible_to_all", request.visibleToAll),
    ("user", request.user),
    ("owned", request.owned),
    ("limit", request.limit),
    ("start", request.start),
    ("substring", request.substring),
    ("suggest", request.suggest)]

/-- The filter that a listing stands for, if its parts are in order. -/
def filter (request : ListRequest) : Except Failure ListFilter :=
  Failure.ofCheck .listFilter
    (ListFilter.check (.dict (request.entries.map fun (name, value) => (.text name, value))))

end ListRequest

/-- Where the groups of a listing come from.  The source is told the groups after they have been
named: one that hands out the same groups again keeps their names. -/
structure ListSource (m : Type → Type) where
  fetch : ListFilter → m (Keyed Group)
  named : Keyed Group → m Unit

namespace ListRequest

variable {m : Type → Type} [Monad m] [MonadExceptOf Failure m]

/-- Carry out a listing: the groups by name. -/
def getAsMap (source : ListSource m) (request : ListRequest) : m (Keyed Group) := do
  let filter ← Failure.orThrow request.filter
  source.fetch filter

/-- Put the name under which each group is listed into the group. -/
def nameGroups (groups : Keyed Group) : Keyed Group :=
  groups.map fun (name, group) => (name, { group with name := some name })

/-- Carry out a listing: the groups in order, each with the name it is listed under. -/
def get (source : ListSource m) (request : ListRequest) : m (List Group) := do
  let groups ← getAsMap source request
  let named := nameGroups groups
  source.named named
  pure (named.map Prod.snd)

/-- What is logged about a listing. -/
def listedMessage (count : Nat) : String :=
  s!"Listed {count} groups"

/-- What a caller can ask of a listing that is being built. -/
inductive Call where
  | change (step : Step)
  | state
  | getAsMap
  | get
deriving Repr, Inhabited

/-- What a call answers.  A change answers the listing itself. -/
inductive Answer where
  | itself
  | filter (filter : ListFilter)
  | groupMap (groups : Keyed Group)
  | groups (groups : List Group)
deriving Repr, Inhabited

/-- Make a call: what it comes to, and the listing afterwards. -/
def perform (source : ListSource m) (request : ListRequest) :
    Call → m (Except Failure Answer × ListRequest)
  | .change step => pure (Building.changed .itself ((apply step).run request))
  | .state => pure (request.filter.map .filter, request)
  | .getAsMap => Building.ask request .groupMap (getAsMap source request)
  | .get => Building.ask request .groups (get source request)

end ListRequest

end ReviewGroups
