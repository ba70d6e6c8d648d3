import RecordMapper.Model.DualMethod
import RecordMapper.Operation.Basic
import RecordMapper.Record.Hiding
import RecordMapper.Sql.Change

/-!
Writing records. Statements about a whole table take a filter; statements about one record address
it by its primary keys, all of which need a value. A deletion always has a filter.
-/
namespace RecordMapper

open Sql

namespace Record

def requirePrimary (r : Record) : Except Error Value :=
  r.ask .requirePrimary do
    let primary ← r.askKeys
    let missing := primary.entries.filterMap fun e =>
      match e.2 with
      | .null => some e.1.shown
      | _ => none
    if missing.isEmpty then return primary.toValue
    else throw (.missingPrimary r.model.ref.name missing)

/-- What is stored of primary keys and values: the keys that have a value, and all values. -/
def rowOf (primary values : Mapping) : Mapping :=
  (primary.filter fun _ v =>
    match v with
    | .null => false
    | _ => true).insertAll values.entries

def storedRow (r : Record) : Except Error Mapping := do
  let primary ← r.askKeys
  return rowOf primary (← (← r.askValues false).toMapping)

def adoptKey (reply : Reply) (r : Record) (key : String) : Except Error Record := do
  let row ← reply.part (.int 0)
  if ← (Value.text key).memberOf row then return r.assign key (← row.part (.text key))
  else return r

/-- Is the reply a class of collections? Whatever is taken from one holds no names. -/
def isGeneric (reply : Reply) : Bool :=
  [ValueClass.list, .tuple, .dict, .set].any fun c => reply == .callable (.constructor c)

def adoptKeys (r : Record) (reply : Reply) : Except Error Record :=
  if reply.truthy && !isGeneric reply then r.schema.primary.foldlM (adoptKey reply) r else pure r

end Record

namespace Operation

variable {κ : Type}

def execute (m : ModelClass) (text : String) (values : Value) (route : Route κ) :
    Action Catalog (Request κ Reply) := do
  if text.isEmpty then throw .noQuery
  let values ← match values with
    | .null => pure []
    | .list vs | .tuple vs => pure vs
    | _ => throw .valuesNotSequence
  sending m route ⟨text, values⟩ pure

def insert (m : ModelClass) (data : Value) (route : Route κ) :
    Action Catalog (Request κ Reply) := do
  let schema ← m.schema
  let query ← Insert.build schema.table data.orEmpty .null true
  sending m route (← query.render) pure

/-- Is a row only inserted, never updated? This is the one option of storing a record. -/
def insertOnly : List (String × Value) → Except Error Bool
  | [] => pure false
  | [("insert_only", v)] => pure v.truthy
  | _ => throw .typeMismatch

/-- Stores a record: its row is inserted, or updated if there is one with its primary keys. Primary
keys that the database assigns are taken over. -/
def save (r : Record) (options : List (String × Value)) (route : Route κ) :
    Action Catalog (Request κ (Reply × Record)) := do
  r.offer .save
  let insertOnly ← insertOnly options
  let row ← r.storedRow
  let keys := if insertOnly then .null else .list (r.schema.primary.map .text)
  let query ← Insert.build r.schema.table row.toValue keys true
  sending r.model route (← query.render) fun reply => do return (reply, ← r.adoptKeys reply)

def updateMany (m : ModelClass) (filter values : Value) (route : Route κ) :
    Action Catalog (Request κ Reply) := do
  let schema ← m.schema
  let query ← Update.build schema.table values filter true
  sending m route (← query.render) pure

def update (r : Record) (route : Route κ) : Action Catalog (Request κ Reply) := do
  r.offer .update
  let primary ← r.requirePrimary
  let query ← Update.build r.schema.table (← r.askValues false) primary true
  sending r.model route (← query.render) pure

def deleteMany (m : ModelClass) (filter : Value) (route : Route κ) :
    Action Catalog (Request κ Reply) := do
  unless filter.truthy do throw .unscopedDelete
  let schema ← m.schema
  let query ← Delete.build schema.table filter
  sending m route (← query.render) pure

def delete (r : Record) (route : Route κ) : Action Catalog (Request κ Reply) := do
  r.offer .delete
  let primary ← r.requirePrimary
  let query ← Delete.build r.schema.table primary
  sending r.model route (← query.render) pure

abbrev SharedWrite (κ : Type) :=
  DualMethod ModelClass Record (List Value → Route κ → Action Catalog (Request κ Reply))

def updates : SharedWrite κ where
  classForm m
    | [filter, values], route => updateMany m filter values route
    | _, _ => throw .typeMismatch
  instanceForm := some fun
    | r, [], route => update r route
    | _, _, _ => throw .typeMismatch

/-- A class deletes without a filter if none is given, which it refuses. -/
def deletes : SharedWrite κ where
  classForm m
    | [], route => deleteMany m .null route
    | [filter], route => deleteMany m filter route
    | _, _ => throw .typeMismatch
  instanceForm := some fun
    | r, [], route => delete r route
    | _, _, _ => throw .typeMismatch

end Operation

end RecordMapper
