import RecordMapper.Json.Writer
import RecordMapper.Sql.Select
import RecordMapper.Value.Membership

/-!
Insertion of rows, perhaps with an update of the rows that are already there. Rows with different
columns are aligned on the union of their columns, and missing cells take the default of the
database. Maps are stored as JSON text.
-/
namespace RecordMapper.Sql

/-- The value to bind for a cell: maps as JSON text, all else as it is. -/
def stored : Value → Except Error Value
  | .dict es => do return .text (← Json.render (.dict es))
  | v => pure v

structure Insert where
  table : String
  rows : List Value
  /-- The columns whose equality makes a row the same row; without any, nothing is updated. -/
  conflictKeys : List Value
  returning : Bool

namespace Insert

/-- The insertion of one row, or of a list of rows; an empty list inserts one row of defaults. -/
def build (table : String) (rows conflictKeys : Value) (returning : Bool) :
    Except Error Insert := do
  let rows ← match rows with
    | .dict es => pure [.dict es]
    | rows => rows.toItems
  let rows := if rows.isEmpty then [.dict []] else rows
  let conflictKeys ← if conflictKeys.truthy then conflictKeys.toItems else pure []
  return { table, rows, conflictKeys, returning }

def addColumn (columns : List Value) (column : Value) : Except Error (List Value) := do
  return if ← column.occursAmong columns then columns else columns ++ [column]

/-- The columns of all rows in the order of first mention. The columns of a row are what it lists. -/
def unionColumns (rows : List Value) : Except Error (List Value) :=
  rows.foldlM (fun columns row => do (← row.toItems).foldlM addColumn columns) []

/-- One cell: the stored value, or the default where the row has none. -/
def writeCell (row column : Value) : Writer String := do
  if ← column.memberOf row then bindValue (← stored (← row.part column)) else return "DEFAULT"

def writeRow (columns : List Value) (row : Value) : Writer String := do
  let cells ← columns.mapM (writeCell row)
  return "(" ++ ", ".intercalate cells ++ ")"

/-- The rows to insert: a row of defaults if there are no columns, else a list of columns and a list
of rows of cells. -/
def writeRows (q : Insert) (columns : List Value) : Writer String := do
  if columns.isEmpty then return "INSERT INTO " ++ q.table ++ " DEFAULT VALUES"
  let tuples ← q.rows.mapM (writeRow columns)
  let names ← columnNames columns
  return "INSERT INTO " ++ q.table ++ " (" ++ ", ".intercalate names ++ ") VALUES " ++
    ", ".intercalate tuples

/-- What is done on a conflict: the columns outside the keys are updated, if there are any. -/
def conflictAction (columns keys : List Value) : String :=
  let updates := columns.filter fun c => !c.isIn keys
  if updates.isEmpty then " DO NOTHING"
  else " DO UPDATE SET " ++
    ", ".intercalate (updates.map fun c => c.shown ++ " = EXCLUDED." ++ c.shown)

def conflictText (columns keys : List Value) : Except Error String := do
  if keys.isEmpty then return ""
  let names ← columnNames keys
  return " ON CONFLICT (" ++ ", ".intercalate names ++ ")" ++ conflictAction columns keys

def returningText (returning : Bool) : String := if returning then " RETURNING *" else ""

def write (q : Insert) : Writer String := do
  let columns ← unionColumns q.rows
  let rows ← q.writeRows columns
  let conflict ← conflictText columns q.conflictKeys
  return rows ++ conflict ++ returningText q.returning

def render (q : Insert) : Except Error Statement := Statement.ofWriter q.write

end Insert

end RecordMapper.Sql
