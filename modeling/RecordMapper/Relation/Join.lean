import RecordMapper.Schema.Basic
import RecordMapper.Sql.Select

/-!
Relations as queries to join. The query of a relation exposes the foreign column and, under the
name of the relation, the related row as a JSON object or all related rows as a list of them; in
the latter case the objects of the same foreign key are gathered from an inner query.
-/
namespace RecordMapper.Relation

open Sql

def joinAlias (name : String) : String := "t_" ++ name

def innerAlias (name : String) : String := joinAlias name ++ "__inner"

def quotedName (name : String) : String := "\"" ++ name ++ "\""

def jsonObject (columns : List String) : String :=
  "json_build_object(" ++
    ", ".intercalate (columns.map fun c => "'" ++ c ++ "', " ++ quotedName c) ++ ")"

def fetched (r : Relation) (target : Schema) : List String :=
  match r.columns with
  | none | some [] => target.fieldNames
  | some columns => columns

/-- One object for each row of the target. -/
def joinOne (name : String) (r : Relation) (target : Schema) : Select :=
  (Select.start.selectNames
    [r.foreignColumn, jsonObject (r.fetched target) ++ " AS " ++ quotedName name]).fromTable
    target.table

def joinMany (name : String) (r : Relation) (target : Schema) : Select :=
  let inner := innerAlias name
  let key := inner ++ "." ++ r.foreignColumn
  ((Select.start.selectNames
    [key, "json_agg(" ++ inner ++ "." ++ quotedName name ++ ") AS " ++
      quotedName name]).fromSubquery (joinOne name r target) inner).groupBy key

def compile (name : String) (r : Relation) (target : Schema) : Except Error Select :=
  match r.kind with
  | .hasOne => pure (joinOne name r target)
  | .hasMany => pure (joinMany name r target)
  | .other _ => throw .badRelationKind

def resultColumn (name : String) : String := joinAlias name ++ "." ++ quotedName name

end RecordMapper.Relation
