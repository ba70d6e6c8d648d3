import RecordMapper.Declaration.Coercion

/-!
Declarations of relations.
-/
namespace RecordMapper

open Declaration

def RelationKind.read (v : Value) : Checked RelationKind :=
  match text v with
  | .ok "HAS_ONE" => .ok hasOne
  | .ok "HAS_MANY" => .ok hasMany
  | _ => faulty .notRelationKind

namespace Relation

def ofArguments (args : OrderedMap String Value) : Checked Relation :=
  let kind := required args "type" RelationKind.read
  let model := required args "model" text
  let localColumn := required args "local" text
  let foreignColumn := required args "foreign" text
  let columns := optional args "columns" none (nullable texts)
  let transform := optional args "transform" none (nullable callable)
  (kind.both <| model.both <| localColumn.both <| foreignColumn.both <| columns.both transform).map
    fun (kind, model, localColumn, foreignColumn, columns, transform) =>
      { kind, model, localColumn, foreignColumn, columns, transform }

def read : Value → Checked Relation
  | .relation r => .ok r
  | .dict es =>
    ofArguments (.ofEntries (es.filterMap fun
      | (.text k, v) => some (k, v)
      | _ => none))
  | _ => faulty .notRelation

def declare (v : Value) : Except Error Relation := do
  (ofArguments (← arguments v)).orRaise

end Relation

end RecordMapper
