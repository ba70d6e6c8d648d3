import RecordMapper.Function.Basic
import RecordMapper.Json.Reader
import RecordMapper.Value.Membership

/-!
Payloads of relations. The payload of a fetched row stands in the column named after the relation,
as JSON text or already decoded. Owners without related rows have no payload, which for a relation
to many rows is an empty list.
-/
namespace RecordMapper.Relation

/-- The decoded payload: texts and byte strings are read as JSON. -/
def parsePayload : Value → Except Error Value
  | .text s => Json.parse s.toList
  | .looseText ns => Json.parsePoints ns
  | .bytes bs => Json.parseBytes bs
  | v => pure v

/-- The payload of owners without related rows. -/
def fillPayload (kind : RelationKind) (v : Value) : Value :=
  match kind, v with
  | .hasMany, .null => .list []
  | _, v => v

def payload (fns : Functions) (r : Relation) (column : Value) : Except Error Value := do
  let v := fillPayload r.kind (← parsePayload column)
  match r.transform with
  | none => return v
  | some f => f.apply fns v

/-- Puts the decoded payload in place of the column; rows without the column stay as they are. -/
def decodeRow (fns : Functions) (name : String) (r : Relation) (row : Mapping) :
    Except Error Mapping :=
  match row.get? (.text name) with
  | none => pure row
  | some column => do return row.insert (.text name) (← r.payload fns column)

/-- Decodes the payload of a row. What holds the name of the relation and is no map has no such
column; what does not hold it stays as it is. -/
def decode (fns : Functions) (name : String) (r : Relation) (row : Value) : Except Error Value :=
  match row.mapping? with
  | some m => (r.decodeRow fns name m).map OrderedMap.toValue
  | none => do if ← (Value.text name).memberOf row then row.part (.text name) else return row

end RecordMapper.Relation
