import RecordMapper.Sql.Statement
import RecordMapper.Value.Display

/-!
Conditions on columns. What a value asks of its column depends on its kind only: `null` asks for
the absence of a value, a collection for one of its members, anything else for equality. All
conditions of a clause have to hold.
-/
namespace RecordMapper.Sql

/-- What is asked of one column. -/
inductive Condition
  | isNull
  /-- No member to be equal to: nothing matches. -/
  | never
  | oneOf (members : List Value)
  | equals (value : Value)

def Condition.ofValue : Value → Condition
  | .null => isNull
  | .list [] | .tuple [] | .set _ [] => never
  | .list vs | .tuple vs | .set _ vs => oneOf vs
  | v => equals v

def Condition.write (column : String) : Condition → Writer String
  | isNull => do return column ++ " IS NULL"
  | never => do return "FALSE"
  | oneOf vs => do
    let placeholders ← vs.mapM bindValue
    return column ++ " IN (" ++ ", ".intercalate placeholders ++ ")"
  | equals v => do return column ++ " = " ++ (← bindValue v)

def writeWhere (filter : Mapping) : Writer String := do
  if filter.isEmpty then return ""
  let conditions ← filter.entries.mapM fun e => (Condition.ofValue e.2).write e.1.shown
  return " WHERE " ++ " AND ".intercalate conditions

end RecordMapper.Sql
