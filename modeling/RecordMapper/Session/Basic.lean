import RecordMapper.Connection.Recording
import RecordMapper.Operation.Basic
import RecordMapper.Record.Store
import RecordMapper.Schema.Criteria

/-!
Sessions. A session declares models, makes and finds records, keeps them under names, and sends
statements to a recording pool and its connections. What a session keeps holds references to the
records of its store, so that a change of a record shows wherever it is held: under names, in
criteria of rules, in scripted rows and in recorded statements.
-/
namespace RecordMapper

structure Session (ω : Type) where
  store : Store := {}
  /-- What is kept under names, the last first. -/
  names : List (String × Value) := []
  models : List (String × ModelClass) := []
  catalog : Catalog := {}
  recording : Recording := {}
  connections : List (String × Connection Recording) := []
  /-- The answers of the steps of each group of the transaction under way. -/
  inner : List (List ω) := []

namespace Session

variable {ω : Type}

def catalogs : Part (Session ω) Catalog := ⟨(·.catalog), fun c s => { s with catalog := c }⟩

def recordings : Part (Session ω) Recording := ⟨(·.recording), fun r s => { s with recording := r }⟩

def kept? (s : Session ω) (name : String) : Option Value :=
  (s.names.lookup name).map s.store.unfold

def model? (s : Session ω) (name : String) : Option ModelClass :=
  have names (v : Value) := Primitive.unknownName?_congr fun _ text => s.store.refresh_eq_text text v
  (s.models.lookup name).map fun m =>
    { m with declared? := m.declared?.map fun d =>
      { d with schema := d.schema.mapCriteria s.store.refresh names } }

def enroll (r : Record) : Action (Session ω) Value := do
  let s ← get
  set { s with store := s.store.add r.attributes.entries }
  return .reference r.model.ref s.store.records.length

def keep (name : Option String) (v : Value) : Action (Session ω) Value := do
  modify fun s => { s with names := (name.map (·, v)).toList ++ s.names }
  return (← get).store.unfold v

def change (r : Record) : Action (Session ω) Value := do
  match r.identity with
  | some n =>
    modify fun s => { s with store := s.store.change n r.attributes.entries }
    return (← get).store.unfold (.reference r.model.ref n)
  | none => return r.toValue

def copied (reply : Reply) : Action (Session ω) Reply := do
  let s ← get
  let (store, rename) := s.store.copy [reply]
  set { s with store }
  return store.unfold (reply.copied rename)

/-- Sends a statement for a recording, and replies with a copy of what the script says. -/
def query (send : Sql.Statement → Action (Session ω) Reply) (s : Sql.Statement) :
    Action (Session ω) Reply := do
  copied (← send { s with values := s.values.map Value.folded })

def lend (c : Connection Recording) : Connection (Session ω) :=
  let c := c.within recordings
  { c with query := query c.query }

def pool : Pool (Session ω) :=
  let p := Recording.pool.within recordings
  { p with
    query := query p.query
    acquire := (Recording.pool.acquire.within recordings).map lend }

def follow (script : Script) : Action (Session ω) Unit :=
  modify fun s => { s with
    recording := { s.recording with
      script := { script with
        rows := script.rows.folded, connectionRows := script.connectionRows.folded } } }

def recordedSince (s : Session ω) (earlier : Recording) : Recording :=
  let now := s.recording.since earlier
  let statements := List.map fun (q : Sql.Statement) => { q with values := q.values.map s.store.unfold }
  { now with calls := statements now.calls, queries := now.queries.map statements }

end Session

end RecordMapper
