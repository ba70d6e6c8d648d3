import RecordMapper.Model.Catalog
import RecordMapper.Record.Scope

/-!
Records. A record of a model is made of given data and of values for its primary keys; values that
are still undefined after validation become `null`. Its attributes are the data followed by the
primary keys. The declared fields among the attributes are its values, everything else it carries
besides the primary keys, such as related rows, is never written.
-/
namespace RecordMapper

namespace Schema

/-- The value itself, or `null` in place of an undefined one. -/
def defined : Value → Value
  | .undefined => .null
  | v => v

/-- Makes sure that a primary key has a defined value: given, or else from the data, or else
`null`. -/
def completeKey (values given : Mapping) (key : String) : Mapping :=
  match given.get? (.text key) with
  | none | some .undefined =>
    given.insert (.text key) (defined ((values.get? (.text key)).getD .null))
  | some _ => given

/-- The values of primary keys that an argument gives: by name, or the one of the first key. -/
def givenKeys (s : Schema) : Value → Mapping
  | .null => .empty
  | .dict es => .ofEntries es
  | v => .ofEntries [(.text s.key, v)]

def primaryOf (s : Schema) (primary : Value) (values : Mapping) : Mapping :=
  s.primary.foldl (completeKey values) (s.givenKeys primary)

def admits (s : Schema) : Value → Bool
  | .text name => s.fields.contains name || s.primary.contains name
  | _ => false

def stripped (s : Schema) (values : Mapping) : Mapping := values.filter fun k _ => s.admits k

def attributes (fns : Functions) (s : Schema) (primary : Value) (values : Mapping)
    (validate : Value) (strip : Bool) : Except Error Mapping := do
  let keys := s.primaryOf primary values
  let values := if strip then s.stripped values else values
  let values ← s.validated fns values (← Scope.ofValue validate)
  return (values.mapValues fun _ v => defined v).insertAll keys.entries

def valuesIn (s : Schema) (attributes : Mapping) (skipNull : Bool) : Mapping :=
  .ofEntries (s.fieldNames.filterMap fun name =>
    match attributes.get? (.text name) with
    | none => none
    | some .null => if skipNull then none else some (.text name, .null)
    | some v => some (.text name, v))

/-- The primary keys among attributes; one that is not there is `null`. -/
def keysIn (s : Schema) (attributes : Mapping) : Mapping :=
  .ofEntries (s.primary.map fun name =>
    (.text name, (attributes.get? (.text name)).getD .null))

end Schema

structure Record where
  model : ModelClass
  schema : Schema
  attributes : Mapping
  /-- Tells a record that may be held by other values from all other records. -/
  identity : Option Nat := none

namespace Record

def build (fns : Functions) (m : ModelClass) (primary data validate : Value) (strip : Bool) :
    Except Error Record := do
  let schema ← m.schema
  let values ← data.orEmpty.toMapping
  let attributes ← schema.attributes fns primary values validate strip
  return { model := m, schema, attributes }

def values (r : Record) (skipNull : Bool) : Mapping := r.schema.valuesIn r.attributes skipNull

def primary (r : Record) : Mapping := r.schema.keysIn r.attributes

def toValue (r : Record) : Value := .record r.model.ref r.identity r.attributes.entries

def assign (r : Record) (name : String) (v : Value) : Record :=
  { r with attributes := r.attributes.insert (.text name) v }

/-- The name under which a record has its class, which stays what it is. -/
def classKey : String := "__class__"

def attributesKey : String := "__dict__"

def watchersKey : String := "__weakref__"

/-- The record after an assignment. All attributes can be given at once, as a map. -/
def set (r : Record) (name : String) (v : Value) : Except Error Record :=
  if name = classKey then throw .typeMismatch
  else if name = watchersKey then throw .noAttribute
  else if name = attributesKey then
    match v.mapping? with
    | some attributes => pure { r with attributes }
    | none => throw .typeMismatch
  else pure (r.assign name v)

def remove (r : Record) (name : String) : Except Error Record :=
  if name = classKey then throw .typeMismatch
  else if name = watchersKey then throw .noAttribute
  else if name = attributesKey then pure { r with attributes := .empty }
  else if r.attributes.contains (.text name) then
    pure { r with attributes := r.attributes.erase (.text name) }
  else throw .noAttribute

end Record

def Catalog.record? (c : Catalog) : Value → Option Record
  | .record ref identity es => do
    let model ← c.class? ref
    let schema ← model.schema.toOption
    return { model, schema, attributes := .ofEntries es, identity }
  | _ => none

def Catalog.record (c : Catalog) (v : Value) : Except Error Record :=
  match c.record? v with
  | some r => pure r
  | none => throw .noAttribute

def ModelClass.validate (fns : Functions) (m : ModelClass) (data : Value) :
    Except Error Mapping := do
  let values ← data.toMapping
  let schema ← m.schema
  Schema.healed fns schema.fields values

end RecordMapper
