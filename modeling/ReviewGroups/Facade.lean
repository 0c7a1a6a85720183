/-
Module: ReviewGroups.Facade
Purpose: The entry point: looking groups up, creating, listing and querying them.
Trusted boundary: none
Main exports: Facade.Operation, Facade, Facade.supports, Facade.id, Facade.create, Facade.list,
  Facade.query
-/
import ReviewGroups.Handle

namespace ReviewGroups

namespace Facade

/-- The operations that an implementation may provide. -/
inductive Operation where
  | id
  | create
  | list
  | query
deriving Repr, Inhabited, DecidableEq

namespace Operation

/-- Every operation. -/
def all : List Operation := [.id, .create, .list, .query]

/-- The name of an operation. -/
def name : Operation → String
  | .id => "id"
  | .create => "create"
  | .list => "list"
  | .query => "query"

/-- The operation with a name. -/
def ofName? (name : String) : Option Operation :=
  all.find? fun operation => operation.name = name

end Operation

end Facade

/-- An implementation: the operations it provides, and what carries them out. -/
structure Facade (m : Type → Type) where
  provided : List Facade.Operation
  transport : Transport m

namespace Facade

variable {m : Type → Type}

/-- An implementation that provides everything. -/
def full (transport : Transport m) : Facade m :=
  { provided := Operation.all
    transport := transport }

/-- The implementation provides an operation of this name. -/
def supports (facade : Facade m) (name : String) : Bool :=
  (Operation.ofName? name).any (· ∈ facade.provided)

variable [Monad m] [MonadExceptOf Failure m]

/-- Go on if an operation is provided.  Nothing is sent otherwise. -/
def require (facade : Facade m) (operation : Operation) : m Unit :=
  if operation ∈ facade.provided then pure () else throw (.unsupported (.text operation.name))

/-- A handle on the group that an identifier or a name denotes. -/
def id (facade : Facade m) (identifier : Value) : m Handle := do
  facade.require .id
  let group ← facade.transport.resolve identifier
  Failure.orThrow (Handle.ofGroup group)

/-- What is created for a value: a text is the name of a group with usual options. -/
def creation : Value → Value
  | .text s => .record (.groupInput (.named s))
  | .option o => .record (.groupInput (.named o.name))
  | value => value

/-- A handle on a new group. -/
def create (facade : Facade m) (group : Value) : m Handle := do
  facade.require .create
  let created ← facade.transport.create (creation group)
  Failure.orThrow (Handle.ofGroup created)

/-- A listing to be built. -/
def list (facade : Facade m) : m ListRequest := do
  facade.require .list
  pure ListRequest.new

/-- A query to be built; null starts it without a text. -/
def query (facade : Facade m) (text : Value) : m QueryRequest := do
  facade.require .query
  pure { QueryRequest.new with query := text }

end Facade

end ReviewGroups
