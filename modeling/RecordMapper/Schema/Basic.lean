import RecordMapper.Relation.Declaration
import RecordMapper.Validation.Rule

/-!
Schemas of models. A schema names a table, its fields with their rules, its primary keys and its
relations. Only consistent schemas exist: the table has a name, there is a primary key, type rules
name known types, and no relation shares its name with a field.
-/
namespace RecordMapper

abbrev Fields := OrderedMap String Mapping

def Fields.toValue (fields : Fields) : Value :=
  .dict (fields.entries.map fun e => (.text e.1, OrderedMap.toValue e.2))

def Fields.unknownType? (fields : Fields) : Option (String × String) :=
  fields.entries.findSome? fun e =>
    ((e.2.get? (.text Rule.type.name)).bind Primitive.unknownName?).map (e.1, ·)

def sortTexts (xs : List String) : List String :=
  xs.mergeSort fun a b => decide (a ≤ b)

def clashes (fields : Fields) (relations : OrderedMap String Relation) : List String :=
  sortTexts (relations.keys.filter fields.contains)

structure Schema where
  table : String
  fields : Fields
  primary : List String
  relations : OrderedMap String Relation
  table_ne : table ≠ ""
  types_known : fields.unknownType? = none
  primary_ne : primary ≠ []
  disjoint : clashes fields relations = []

namespace Schema

def key (s : Schema) : String := s.primary.head s.primary_ne

def fieldNames (s : Schema) : List String := s.fields.keys

def columns (s : Schema) : List String :=
  (s.primary ++ s.fieldNames).foldl (fun cs c => if cs.contains c then cs else cs ++ [c]) []

def fieldsValue (s : Schema) : Value := s.fields.toValue

end Schema

end RecordMapper
