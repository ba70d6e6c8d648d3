import RecordMapper.Connection.Basic
import RecordMapper.Record.Basic

/-!
Operations of models. An operation is worked out completely before anything is sent: it looks into
the catalog, where it may keep targets of relations, and ends in a request, which is one statement,
the target that it goes to, and what is made of the reply. So an operation sends one
statement at the most, and none if it fails before.

A statement goes to the connection that the caller gives, else to the pool of the database that the
model is registered on.
-/
namespace RecordMapper

/-- Where the caller wants a statement to run. `κ` is the type of connections. -/
inductive Route (κ : Type)
  | registered
  | given (connection : κ)
  /-- The caller gives something that cannot run statements, which fails when it is asked to. -/
  | unusable (failure : Error)

/-- The route that a value which is no connection asks for. An attribute of a record may look like the
means to run statements, but it is none. -/
def Route.ofValue {κ : Type} : Value → Route κ
  | .null => registered
  | .record _ _ es => unusable (if es.any (·.1 == .text "query") then .typeMismatch else .noConnection)
  | _ => unusable .noConnection

inductive Target (κ : Type)
  | pool (database : DatabaseId)
  | given (connection : κ)

/-- A statement to be sent, and what is made of the reply. -/
structure Request (κ α : Type) where
  target : Target κ
  statement : Sql.Statement
  finish : Reply → Except Error α

variable {κ σ α β : Type}

def Request.map (f : α → β) (r : Request κ α) : Request κ β :=
  { target := r.target, statement := r.statement, finish := fun reply => (r.finish reply).map f }

namespace Operation

def target (c : Catalog) (m : ModelClass) : Route κ → Except Error (Target κ)
  | .given k => pure (.given k)
  | .unusable failure => throw failure
  | .registered =>
    match c.database? m with
    | some d => pure (.pool d)
    | none => throw .noConnection

def sending (m : ModelClass) (route : Route κ) (s : Sql.Statement)
    (finish : Reply → Except Error α) : Action Catalog (Request κ α) := do
  return { target := ← target (← get) m route, statement := s, finish }

def run (catalog : Part σ Catalog) (send : Target κ → Sql.Statement → Action σ Reply)
    (o : Action Catalog (Request κ α)) : Action σ α := do
  let request ← o.within catalog
  request.finish (← send request.target request.statement)

end Operation

end RecordMapper
