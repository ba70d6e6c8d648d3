import RecordMapper.Connection.Basic

/-!
A pool that answers from a script and records everything that is asked of it: the statements sent to
the pool, the calls made to connections, and the statements sent to each connection.
-/
namespace RecordMapper

/-- The calls that a recording lists in one row for all connections. -/
inductive ConnectionEvent
  | acquire | query | start | commit | rollback | release | close
deriving DecidableEq, Repr

structure Script where
  rows : Reply := .list []
  /-- The failure of every statement sent to the pool. -/
  failure : Option Error := none
  connectionRows : Reply := .list []
  connectionFailures : List (ConnectionEvent × Error) := []

/-- What was asked so far, and the script for what comes. -/
structure Recording where
  script : Script := {}
  calls : List Sql.Statement := []
  events : List ConnectionEvent := []
  /-- The statements of each connection, in the order of acquisition. -/
  queries : List (List Sql.Statement) := []

namespace Recording

def since (now earlier : Recording) : Recording :=
  { now with
    calls := now.calls.drop earlier.calls.length
    events := now.events.drop earlier.events.length
    queries := now.queries.zipIdx.map fun q =>
      q.1.drop ((earlier.queries[q.2]?.map (·.length)).getD 0) }

def note (event : ConnectionEvent) : Action Recording Unit :=
  modify fun r => { r with events := r.events ++ [event] }

def perform (failures : List (ConnectionEvent × Error)) (event : ConnectionEvent) :
    Action Recording Unit := do
  note event
  match failures.lookup event with
  | some e => throw e
  | none => pure ()

def connection (number : Nat) (script : Script) : Connection Recording :=
  let perform := perform script.connectionFailures
  { query := fun s => do
      modify fun r => { r with queries := r.queries.modify number (· ++ [s]) }
      perform .query
      return script.connectionRows
    start := perform .start
    commit := perform .commit
    rollback := perform .rollback
    release := perform .release }

def pool : Pool Recording where
  query s := do
    modify fun r => { r with calls := r.calls ++ [s] }
    let script := (← get).script
    match script.failure with
    | some e => throw e
    | none => return script.rows
  acquire := do
    let script := (← get).script
    perform script.connectionFailures .acquire
    let number := (← get).queries.length
    modify fun r => { r with queries := r.queries ++ [[]] }
    return connection number script
  close := note .close

end Recording

end RecordMapper
