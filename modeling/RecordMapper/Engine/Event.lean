import RecordMapper.Action
import RecordMapper.Sql.Statement

/-!
What a database engine is asked for. An engine answers every event with a cursor, which only the
execution of a statement gives a meaning to, or it fails.
-/
namespace RecordMapper.Engine

structure Cursor where
  keys : List String := []
  rows : Value := .list []
  returnsRows : Bool := true

/-- One thing that an engine is asked for. Blocks are entered and left; what is told on leaving is
the error that ended the block. -/
inductive Event
  | enterTransaction
  | leaveTransaction (error : Option Error)
  | enterConnection
  | leaveConnection (error : Option Error)
  | connect
  | execute (text : String) (parameters : Option Mapping)
  | start
  | commit
  | rollback
  | close
  | dispose

end Engine

abbrev Engine (σ : Type) := Engine.Event → Action σ Engine.Cursor

namespace Engine

def parameters (values : List Value) : Mapping :=
  .ofEntries (values.zipIdx.map fun x => (.text (String.ofList (Sql.parameterName x.2)), x.1))

def logging (answer : List Event → Event → Except Error Cursor) : Engine (List Event) :=
  fun event log => (answer log event, log ++ [event])

variable {σ : Type}

def perform (engine : Engine σ) (event : Event) : Action σ Unit := do
  let _ ← engine event
  return ()

/-- A block: once it is entered it is left, with the error of its body if there was one. -/
def block (engine : Engine σ) {α : Type} (enter : Event) (leave : Option Error → Event)
    (body : Action σ α) : Action σ α := do
  engine.perform enter
  match ← body.attempt with
  | .ok a =>
    engine.perform (leave none)
    return a
  | .error e =>
    engine.perform (leave (some e))
    throw e

end Engine

end RecordMapper
