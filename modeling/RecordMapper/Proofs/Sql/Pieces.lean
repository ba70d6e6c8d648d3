import RecordMapper.Sql.Change

/-!
Statements as rows of pieces, each either a text or a value. No list of values is at hand here: the
text of a whole row numbers the values from left to right, and its values are listed in the same
order. A part of a statement is a part of its row.
-/
namespace RecordMapper.Sql

inductive Piece
  | word (text : String)
  | bind (value : Value)

def textFrom : Nat → List Piece → List Char
  | _, [] => []
  | n, .word s :: ps => s.toList ++ textFrom n ps
  | n, .bind _ :: ps => placeholder n ++ textFrom (n + 1) ps

def boundValues : List Piece → List Value
  | [] => []
  | .word _ :: ps => boundValues ps
  | .bind v :: ps => v :: boundValues ps

@[simp] theorem boundValues_append (ps qs : List Piece) :
    boundValues (ps ++ qs) = boundValues ps ++ boundValues qs := by
  induction ps with
  | nil => rfl
  | cons p ps ih => cases p <;> simp [boundValues, ih]

/-- The text of later pieces is numbered behind the earlier ones. -/
theorem textFrom_append (n : Nat) (ps qs : List Piece) :
    textFrom n (ps ++ qs) = textFrom n ps ++ textFrom (n + (boundValues ps).length) qs := by
  induction ps generalizing n with
  | nil => rfl
  | cons p ps ih =>
    cases p with
    | word s => simp [textFrom, boundValues, ih]
    | bind v => simp [textFrom, boundValues, ih, Nat.add_assoc, Nat.add_comm 1]

def Statement.ofPieces (ps : List Piece) : Statement :=
  ⟨String.ofList (textFrom 0 ps), boundValues ps⟩

def separatedBy (separator : String) : List (List Piece) → List Piece
  | [] => []
  | [ps] => ps
  | ps :: rest => ps ++ .word separator :: separatedBy separator rest

theorem separatedBy_cons_cons (separator : String) (ps qs : List Piece) (rest : List (List Piece)) :
    separatedBy separator (ps :: qs :: rest) =
      ps ++ .word separator :: separatedBy separator (qs :: rest) := rfl

/-! The pieces of each part of a statement. -/

def Condition.pieces (column : String) : Condition → List Piece
  | isNull => [.word (column ++ " IS NULL")]
  | never => [.word "FALSE"]
  | oneOf vs =>
    .word (column ++ " IN (") :: separatedBy ", " (vs.map fun v => [.bind v]) ++ [.word ")"]
  | equals v => [.word (column ++ " = "), .bind v]

def conjuncts (filter : Mapping) : List (List Piece) :=
  filter.entries.map fun e => (Condition.ofValue e.2).pieces e.1.shown

def whereClause (filter : Mapping) : List Piece :=
  if filter.isEmpty then [] else .word " WHERE " :: separatedBy " AND " (conjuncts filter)

def countClause (keyword : String) (count : Value) : Except Error (List Piece) := do
  let n ← count.toInteger
  if Number.isOverlong n then throw .badValue
  return [.word (keyword ++ toString n)]

namespace Clauses

def groupClause (c : Clauses) : List Piece :=
  if c.group.isEmpty then [] else [.word (" GROUP BY " ++ c.group)]

def orderClause (c : Clauses) : Except Error (List Piece) :=
  if c.order.truthy then
    match c.order.shown? with
    | some order => pure [.word (" ORDER BY " ++ order ++ " " ++ c.direction.word)]
    | none => throw .endless
  else pure []

def offsetClause (c : Clauses) : Except Error (List Piece) :=
  if c.offset.truthy then countClause " OFFSET " c.offset else pure []

def cutClause (c : Clauses) : Except Error (List Piece) :=
  match c.limit with
  | .null => pure []
  | limit => do return (← countClause " LIMIT " limit) ++ (← c.offsetClause)

def pieces (c : Clauses) : Except Error (List Piece) := do
  let order ← c.orderClause
  let cut ← c.cutClause
  return whereClause c.filter ++ c.groupClause ++ order ++ cut

end Clauses

mutual

def Select.pieces : Select → Except Error (List Piece)
  | .mk _ .missing _ _ => throw .noSource
  | .mk columns source joins clauses => do
    let columns ← columnList columns
    let source ← source.pieces
    let joins ← Join.allPieces joins
    let clauses ← clauses.pieces
    return .word ("SELECT " ++ columns ++ " FROM ") :: source ++ joins ++ clauses
termination_by structural q => q

def Source.pieces : Source → Except Error (List Piece)
  | .missing => throw .noSource
  | .table name => pure [.word name]
  | .subquery q label => do
    return .word "(" :: (← q.pieces) ++ [.word (") AS " ++ label)]
termination_by structural s => s

def Join.pieces : Join → Except Error (List Piece)
  | .left q label localColumn foreignColumn => do
    return .word " LEFT JOIN (" :: (← q.pieces) ++
      [.word (") AS " ++ label ++ " ON " ++ localColumn ++ " = " ++ foreignColumn)]
termination_by structural j => j

def Join.allPieces : List Join → Except Error (List Piece)
  | [] => pure []
  | j :: js => do return (← j.pieces) ++ (← Join.allPieces js)
termination_by structural js => js

end

namespace Insert

def cellPieces (row column : Value) : Except Error (List Piece) := do
  if ← column.memberOf row then return [.bind (← stored (← row.part column))]
  else return [.word "DEFAULT"]

def rowPieces (columns : List Value) (row : Value) : Except Error (List Piece) := do
  let cells ← columns.mapM (cellPieces row)
  return .word "(" :: separatedBy ", " cells ++ [.word ")"]

def conflictClause (columns keys : List Value) : Except Error (List Piece) := do
  if keys.isEmpty then return []
  let names ← columnNames keys
  return [.word (" ON CONFLICT (" ++ ", ".intercalate names ++ ")" ++ conflictAction columns keys)]

def returningClause (returning : Bool) : List Piece :=
  if returning then [.word " RETURNING *"] else []

def rowsClause (q : Insert) (columns : List Value) : Except Error (List Piece) :=
  if columns.isEmpty then
    pure [Piece.word ("INSERT INTO " ++ q.table ++ " DEFAULT VALUES")]
  else do
    let tuples ← q.rows.mapM (rowPieces columns)
    let names ← columnNames columns
    return .word ("INSERT INTO " ++ q.table ++ " (" ++ ", ".intercalate names ++ ") VALUES ") ::
      separatedBy ", " tuples

def pieces (q : Insert) : Except Error (List Piece) := do
  let columns ← unionColumns q.rows
  let rows ← q.rowsClause columns
  let conflict ← conflictClause columns q.conflictKeys
  return rows ++ conflict ++ returningClause q.returning

end Insert

namespace Update

def assignment (e : Value × Value) : Except Error (List Piece) := do
  return [.word (e.1.shown ++ " = "), .bind (← stored e.2)]

def pieces (q : Update) : Except Error (List Piece) := do
  let assignments ← q.values.entries.mapM assignment
  return .word ("UPDATE " ++ q.table ++ " SET ") :: separatedBy ", " assignments ++
    whereClause q.filter ++ Insert.returningClause q.returning

end Update

def Delete.pieces (q : Delete) : List Piece :=
  .word ("DELETE FROM " ++ q.table) :: whereClause q.filter

end RecordMapper.Sql
