import RecordMapper.Schema.Basic

/-!
Declarations of schemas. A declaration is accepted exactly if its parts have their types and are
consistent; otherwise every faulty part is reported, in the order table, fields, primary keys,
relations. A clash of names between parts is looked for only where all parts are in order.
-/
namespace RecordMapper.Schema

open Declaration

def readTable (v : Value) : Checked { t : String // t ≠ "" } := do
  let t ← text v
  if h : t ≠ "" then return ⟨t, h⟩ else faulty .tooShort

def readRules (v : Value) : Checked Mapping :=
  (dictOf .ok v).map fun m => Mapping.ofFields m.entries

def unknownTypeText (field type : String) : String :=
  s!"Field '{field}' has unknown type '{type}' (expected one of: " ++
    ", ".intercalate (Primitive.all.map (·.name)) ++ ")"

def readFields (v : Value) : Checked { fs : Fields // fs.unknownType? = none } := do
  let fields ← dictOf readRules v
  match h : Fields.unknownType? fields with
  | none => return ⟨fields, h⟩
  | some (field, type) => faulty (.broken (unknownTypeText field type))

def readPrimary (v : Value) : Checked { ks : List String // ks ≠ [] } := do
  let keys ← texts v
  if h : keys ≠ [] then return ⟨keys, h⟩
  else faulty (.broken "primary must name at least one field")

def ofParts (table : { t : String // t ≠ "" }) (fields : { fs : Fields // fs.unknownType? = none })
    (primary : { ks : List String // ks ≠ [] }) (relations : OrderedMap String Relation) :
    Checked Schema :=
  if h : clashes fields.1 relations = [] then
    .ok { table := table.1, fields := fields.1, primary := primary.1, relations
          table_ne := table.2, types_known := fields.2, primary_ne := primary.2, disjoint := h }
  else
    faulty (.broken
      ("Relation names clash with fields: " ++ ", ".intercalate (clashes fields.1 relations)))

def ofArguments (args : OrderedMap String Value) : Checked Schema := do
  let table := required args "table" readTable
  let fields := required args "fields" readFields
  let primary := optional args "primary" ⟨["id"], by simp⟩ readPrimary
  let relations := optional args "relations" .empty (dictOf Relation.read)
  let (table, fields, primary, relations) ← table.both <| fields.both <| primary.both relations
  ofParts table fields primary relations

def declare (v : Value) : Except Error Schema := do
  (ofArguments (← arguments v)).orRaise

end RecordMapper.Schema
