import RecordMapper.Schema.Drift
import RecordMapper.Sql.Statement

/-!
Reading the live columns of a database. Tables of the database system itself are left out.
-/
namespace RecordMapper.Introspection

def excludedTables : List String := ["schema_migrations", "pg_stat_statements", "spatial_ref_sys"]

def queryText : String :=
  "\n    SELECT table_name, column_name\n    FROM information_schema.columns\n" ++
    "    WHERE table_schema = :p_0\n    ORDER BY table_name, ordinal_position\n"

def query (schemaName : String) : Sql.Statement := ⟨queryText, [.text schemaName]⟩

def addColumn (columns : Columns) (table column : String) : Columns :=
  columns.insert table (((columns.get? table).getD []) ++ [column])

def columns (rows : List (String × String)) : Columns :=
  (rows.filter fun r => !excludedTables.contains r.1).foldl
    (fun columns r => addColumn columns r.1 r.2) .empty

end RecordMapper.Introspection
