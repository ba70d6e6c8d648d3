import RecordMapper.Sql.Condition
import RecordMapper.Text.Uppercase
import RecordMapper.Value.Convert

/-!
Queries. A query selects from a table or from another query, may join further queries on the left,
filter, group, sort and cut its result. It is put together step by step and rendered as a whole.
-/
namespace RecordMapper.Sql

inductive Direction
  | ascending
  | descending
deriving DecidableEq, Repr

def Direction.word : Direction → String
  | ascending => "ASC"
  | descending => "DESC"

/-- The direction asked for by a word: ascending for `asc` in any case, descending otherwise. Byte
strings are words too, none of which is `asc`. -/
def Direction.ofValue : Value → Except Error Direction
  | .null | .bytes _ | .looseText _ => pure descending
  | .text s => pure (if Text.upper s = ascending.word then ascending else descending)
  | v => throw (v.operationError [.text, .bytes])

/-- The clauses behind the sources of a query. A `null` limit or offset is none. -/
structure Clauses where
  filter : Mapping := .empty
  group : String := ""
  order : Value := .null
  direction : Direction := .descending
  limit : Value := .null
  offset : Value := .null

mutual

inductive Source
  | missing
  | table (name : String)
  | subquery (query : Select) (label : String)

/-- A query joined on the left, on the equality of two columns. -/
inductive Join
  | left (query : Select) (label localColumn foreignColumn : String)

inductive Select
  | mk (columns : List Value) (source : Source) (joins : List Join) (clauses : Clauses)

end

namespace Select

def start : Select := mk [] .missing [] {}

def select (q : Select) (columns : Value) : Except Error Select := do
  let items ← columns.toItems
  match q with
  | mk cs source joins clauses => return mk (cs ++ items) source joins clauses

def selectNames (q : Select) (names : List String) : Select :=
  match q with
  | mk cs source joins clauses => mk (cs ++ names.map .text) source joins clauses

def fromTable (q : Select) (table : String) : Select :=
  match q with
  | mk cs _ joins clauses => mk cs (.table table) joins clauses

def fromSubquery (q sub : Select) (label : String) : Select :=
  match q with
  | mk cs _ joins clauses => mk cs (.subquery sub label) joins clauses

def leftJoin (q sub : Select) (label localColumn foreignColumn : String) : Select :=
  match q with
  | mk cs source joins clauses =>
    mk cs source (joins ++ [.left sub label localColumn foreignColumn]) clauses

def mapClauses (f : Clauses → Clauses) : Select → Select
  | mk cs source joins clauses => mk cs source joins (f clauses)

/-- Adds conditions; one on the same column replaces the earlier one. -/
def whereAll (q : Select) (filter : Mapping) : Select :=
  q.mapClauses fun c => { c with filter := c.filter.insertAll filter.entries }

def whereValue (q : Select) (filter : Value) : Except Error Select := do
  return q.whereAll (← filter.toMapping)

def groupBy (q : Select) (column : String) : Select :=
  q.mapClauses fun c => { c with group := column }

def orderBy (q : Select) (column direction : Value) : Except Error Select := do
  let direction ← Direction.ofValue direction
  return q.mapClauses fun c => { c with order := column, direction }

def limit (q : Select) (count : Value) : Select :=
  q.mapClauses fun c => { c with limit := count }

/-- Leaves out so many rows; without a limit this has no effect. -/
def offset (q : Select) (count : Value) : Select :=
  q.mapClauses fun c => { c with offset := count }

end Select

def columnNames (columns : List Value) : Except Error (List String) :=
  columns.mapM fun
    | .text s => pure s
    | .looseText ns => pure (Text.nearest ns)
    | _ => throw .typeMismatch

def columnList (columns : List Value) : Except Error String :=
  if columns.isEmpty then pure "*" else (columnNames columns).map (", ".intercalate ·)

def countText (keyword : String) (count : Value) : Except Error String := do
  let n ← count.toInteger
  if Number.isOverlong n then throw .badValue
  return keyword ++ toString n

namespace Clauses

def groupText (c : Clauses) : String :=
  if c.group.isEmpty then "" else " GROUP BY " ++ c.group

def orderText (c : Clauses) : Except Error String :=
  if c.order.truthy then
    match c.order.shown? with
    | some order => pure (" ORDER BY " ++ order ++ " " ++ c.direction.word)
    | none => throw .endless
  else pure ""

def offsetText (c : Clauses) : Except Error String :=
  if c.offset.truthy then countText " OFFSET " c.offset else pure ""

def cutText (c : Clauses) : Except Error String :=
  match c.limit with
  | .null => pure ""
  | limit => do return (← countText " LIMIT " limit) ++ (← c.offsetText)

def write (c : Clauses) : Writer String := do
  let conditions ← writeWhere c.filter
  let order ← c.orderText
  let cut ← c.cutText
  return conditions ++ c.groupText ++ order ++ cut

end Clauses

mutual

def Select.write : Select → Writer String
  | .mk _ .missing _ _ => throw .noSource
  | .mk columns source joins clauses => do
    let columns ← columnList columns
    let source ← source.write
    let joins ← Join.writeAll joins
    let clauses ← clauses.write
    return "SELECT " ++ columns ++ " FROM " ++ source ++ joins ++ clauses
termination_by structural q => q

def Source.write : Source → Writer String
  | .missing => throw .noSource
  | .table name => do return name
  | .subquery q label => do return "(" ++ (← q.write) ++ ") AS " ++ label
termination_by structural s => s

def Join.write : Join → Writer String
  | .left q label localColumn foreignColumn => do
    return " LEFT JOIN (" ++ (← q.write) ++ ") AS " ++ label ++ " ON " ++ localColumn ++ " = " ++
      foreignColumn
termination_by structural j => j

def Join.writeAll : List Join → Writer String
  | [] => do return ""
  | j :: js => do return (← j.write) ++ (← Join.writeAll js)
termination_by structural js => js

end

def Select.render (q : Select) : Except Error Statement := Statement.ofWriter q.write

end RecordMapper.Sql
