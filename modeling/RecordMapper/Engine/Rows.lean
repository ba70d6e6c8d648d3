import RecordMapper.Connection.Basic
import RecordMapper.Engine.Event
import RecordMapper.Value.Convert

/-!
Rows of a result. Columns and cells are paired up to the end of the shorter list, and of several
columns of one name the last cell counts. Identifiers become texts, so that keys compare equal to
the form that other sources give them.
-/
namespace RecordMapper.Engine.Cursor

def cell : Value → Value
  | .uuid s => .text s
  | v => v

def row (keys : List String) (cells : Value) : Except Error Row := do
  let cells ← cells.toItems
  return .ofEntries ((keys.zip cells).map fun x => (.text x.1, cell x.2))

def toRows (c : Cursor) : Except Error (List Row) := do
  if c.returnsRows then (← c.rows.toItems).mapM (row c.keys) else return []

def scalar (c : Cursor) : Value :=
  match c.rows.items?.getD [] with
  | [] => .null
  | first :: _ => ((first.items?.getD []).head?).getD .null

end RecordMapper.Engine.Cursor
