import RecordMapper.Sql.Insert

/-!
Changes of rows that are already there: updates and deletions of the rows that match a filter.
-/
namespace RecordMapper.Sql

structure Update where
  table : String
  values : Mapping
  filter : Mapping
  returning : Bool

namespace Update

def build (table : String) (values filter : Value) (returning : Bool) : Except Error Update := do
  unless values.truthy do throw .nothingToSet
  let values ← values.toMapping
  let filter ← filter.orEmpty.toMapping
  return { table, values, filter, returning }

def writeAssignment (e : Value × Value) : Writer String := do
  return e.1.shown ++ " = " ++ (← bindValue (← stored e.2))

def write (q : Update) : Writer String := do
  let assignments ← q.values.entries.mapM writeAssignment
  let conditions ← writeWhere q.filter
  return "UPDATE " ++ q.table ++ " SET " ++ ", ".intercalate assignments ++ conditions ++
    Insert.returningText q.returning

def render (q : Update) : Except Error Statement := Statement.ofWriter q.write

end Update

structure Delete where
  table : String
  filter : Mapping

namespace Delete

def build (table : String) (filter : Value) : Except Error Delete := do
  return { table, filter := ← filter.toMapping }

def write (q : Delete) : Writer String := do
  return "DELETE FROM " ++ q.table ++ (← writeWhere q.filter)

def render (q : Delete) : Except Error Statement := Statement.ofWriter q.write

end Delete

end RecordMapper.Sql
