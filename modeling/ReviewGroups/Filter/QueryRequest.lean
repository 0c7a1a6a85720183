/-
Module: ReviewGroups.Filter.QueryRequest
Purpose: Building a query step by step, and carrying it out.
Trusted boundary: none
Main exports: QueryRequest, QueryRequest.Step, QueryRequest.apply, QueryRequest.filter,
  QueryRequest.get, QueryRequest.Call, QueryRequest.perform
-/
import ReviewGroups.Filter.ListRequest

namespace ReviewGroups

/-- A query that is being built. -/
structure QueryRequest where
  query : Value
  limit : Value
  start : Value
  options : List DisplayOption
deriving Repr, Inhabited

namespace QueryRequest

/-- A query for everything. -/
def new : QueryRequest :=
  { query := .null
    limit := .int 0
    start := .int 0
    options := [] }

/-- The steps that change a query. -/
inductive Step where
  | withQuery (value : Value)
  | withLimit (value : Value)
  | withStart (value : Value)
  | withOption (value : Value)
  | withOptions (values : List Value)
deriving Repr, Inhabited

/-- The members of a set, of whatever kind, that is the only argument. -/
def onlySet? : List Value → Option (List Value)
  | [.items container members] => if container.isSetLike then some members else none
  | _ => none

/-- Take a step.  A single set replaces the options; any other arguments are added to them.  What a
step names is read as a whole before anything is changed. -/
def apply : Step → EStateM Misuse QueryRequest Unit
  | .withQuery value => modify fun request => { request with query := value }
  | .withLimit value => modify fun request => { request with limit := value }
  | .withStart value => modify fun request => { request with start := value }
  | .withOption value => do
      let o ← ofExcept (DisplayOption.ofValue value)
      modify fun request => { request with options := DisplayOption.union request.options [o] }
  | .withOptions values =>
      match onlySet? values with
      | some members => do
          let only ← ofExcept (DisplayOption.ofEach members)
          modify fun request => { request with options := DisplayOption.canonical only }
      | none => do
          let more ← ofExcept (DisplayOption.listOfValues values)
          modify fun request => { request with options := DisplayOption.union request.options more }

/-- The parts of a query by name, as they were given. -/
def entries (request : QueryRequest) : Keyed Value :=
  [("query", request.query),
    ("limit", request.limit),
    ("start", request.start),
    ("options", DisplayOption.toTuple request.options)]

/-- The filter that a query stands for, if its parts are in order. -/
def filter (request : QueryRequest) : Except Failure QueryFilter :=
  Failure.ofCheck .queryFilter
    (QueryFilter.check (.dict (request.entries.map fun (name, value) => (.text name, value))))

variable {m : Type → Type} [Monad m] [MonadExceptOf Failure m]

/-- Carry out a query: the groups as they are found. -/
def get (fetch : QueryFilter → m (List Group)) (request : QueryRequest) : m (List Group) := do
  let filter ← Failure.orThrow request.filter
  fetch filter

/-- What a caller can ask of a query that is being built. -/
inductive Call where
  | change (step : Step)
  | state
  | get
deriving Repr, Inhabited

/-- What a call answers.  A change answers the query itself. -/
inductive Answer where
  | itself
  | filter (filter : QueryFilter)
  | groups (groups : List Group)
deriving Repr, Inhabited

/-- Make a call: what it comes to, and the query afterwards. -/
def perform (fetch : QueryFilter → m (List Group)) (request : QueryRequest) :
    Call → m (Except Failure Answer × QueryRequest)
  | .change step => pure (Building.changed .itself ((apply step).run request))
  | .state => pure (request.filter.map .filter, request)
  | .get => Building.ask request .groups (get fetch request)

end QueryRequest

end ReviewGroups
