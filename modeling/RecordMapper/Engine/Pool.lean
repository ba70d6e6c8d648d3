import RecordMapper.Connection.Transaction
import RecordMapper.Engine.Rows
import RecordMapper.Value.Membership

/-!
The pool of an engine. A single statement runs in a block of its own, which commits or rolls back
when it is left; a borrowed connection is asked for directly and has to be closed.
-/
namespace RecordMapper.Engine

variable {σ : Type}

def executeText (engine : Engine σ) (text : String) (values : Value) : Action σ (List Row) := do
  let cursor ← engine (.execute text (some (parameters (← values.toItems))))
  cursor.toRows

def executeAlone (engine : Engine σ) (text : String) (values : Value) : Action σ (List Row) :=
  engine.block .enterTransaction .leaveTransaction (engine.executeText text values)

def execute (engine : Engine σ) (s : Sql.Statement) : Action σ Reply := do
  return .ofRows (← engine.executeText s.text (.list s.values))

def connection (engine : Engine σ) : Connection σ where
  query := engine.execute
  start := engine.perform .start
  commit := engine.perform .commit
  rollback := engine.perform .rollback
  release := engine.perform .close

def pool (engine : Engine σ) : Pool σ where
  query s := do return .ofRows (← engine.executeAlone s.text (.list s.values))
  acquire := do
    engine.perform .connect
    return engine.connection
  close := engine.perform .dispose

def testText : String := "SELECT 1"

def test (engine : Engine σ) : Action σ Bool :=
  engine.block .enterConnection .leaveConnection do
    let cursor ← engine (.execute testText none)
    cursor.scalar.equals (.int 1)

end RecordMapper.Engine
