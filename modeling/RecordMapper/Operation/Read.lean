import RecordMapper.Operation.Basic
import RecordMapper.Relation.Join
import RecordMapper.Relation.Payload

/-!
Finding records. The rows of the table of a model that match a filter are fetched, with the related
rows of the wanted relations joined to them, and become records without validation.
-/
namespace RecordMapper

open Sql

/-- What a search asks for besides its filter. -/
structure Search where
  /-- The relations to fetch: all of them, or some by name. -/
  populate : Value := .bool false
  order : Value := .null
  direction : Value := .null
  limit : Value := .null
  offset : Value := .int 0
  /-- The columns to select, by default all of the table. -/
  columns : Value := .null

namespace Search

def setOption (s : Search) : String × Value → Except Error Search
  | ("populate", v) => pure { s with populate := v }
  | ("order_by", v) => pure { s with order := v }
  | ("order_direction", v) => pure { s with direction := v }
  | ("limit", v) => pure { s with limit := v }
  | ("offset", v) => pure { s with offset := v }
  | ("columns", v) => pure { s with columns := v }
  | _ => throw .typeMismatch

def ofOptions (options : List (String × Value)) : Except Error Search :=
  options.foldlM setOption {}

end Search

inductive Wanted
  | all
  | named (names : List Value)

namespace Wanted

def ofValue (populate : Value) : Except Error Wanted :=
  if !populate.truthy then pure (named [])
  else
    match populate with
    | .bool _ => pure all
    | .text _ | .looseText _ => pure (named [populate])
    | v => do
      let names ← v.toItems
      if names.all Value.isHashable then return named names else throw .typeMismatch

def includes (w : Wanted) (name : String) : Bool :=
  match w with
  | all => true
  | named names => (Value.text name).isIn names

end Wanted

namespace Operation

/-- A query on the way: its columns, what is joined, and the relations to decode. -/
structure Population where
  columns : List Value
  query : Select := .start
  joined : List (String × Relation) := []

def Population.join (p : Population) (table name : String) (r : Relation) (sub : Select) :
    Population :=
  let label := Relation.joinAlias name
  { columns := p.columns ++ [.text (Relation.resultColumn name)]
    query := p.query.leftJoin sub label (table ++ "." ++ r.localColumn)
      (label ++ "." ++ r.foreignColumn)
    joined := p.joined ++ [(name, r)] }

def populate (m : ModelClass) (table : String) :
    List (String × Relation) → Population → Action Catalog Population
  | [], p => pure p
  | (name, r) :: rest, p => do
    let d ← (← get).database m
    let target ← Catalog.resolve d (m.relationRef name r)
    let sub ← r.compile name (← target.schema)
    populate m table rest (p.join table name r sub)

/-- A column of a filter, qualified with the table unless it is qualified already. -/
def qualified (table : String) (key : Value) : Except Error Value := do
  if ← Value.memberOf (.text ".") key then return key
  else return .text (table ++ "." ++ key.shown)

def qualifiedFilter (table : String) (filter : Value) : Except Error Mapping :=
  match filter.orEmpty with
  | .dict es => do
    return .ofEntries (← es.mapM fun e => do return (← qualified table e.1, e.2))
  | v => throw (v.operationError [.dict])

/-- Sorts and cuts a query as a search asks for. An offset counts only together with a limit. -/
def arranged (query : Select) (s : Search) : Except Error Select := do
  let query ← if s.order.truthy then query.orderBy s.order s.direction else pure query
  if s.limit.truthy then
    let query := query.limit s.limit
    return if s.offset.truthy then query.offset s.offset else query
  else return query

def hydrate (fns : Functions) (m : ModelClass) (joined : List (String × Relation)) (row : Value) :
    Except Error Record := do
  let row ← joined.foldlM (fun row j => j.2.decode fns j.1 row) row
  Record.build fns m .null (← m.hook row) (.bool false) false

variable {κ : Type}

def findMany (fns : Functions) (m : ModelClass) (filter : Value) (s : Search) (route : Route κ) :
    Action Catalog (Request κ (List Record)) := do
  let schema ← m.schema
  let table := schema.table
  let columns ← if s.columns.truthy then s.columns.toItems else pure [.text (table ++ ".*")]
  let wanted ← Wanted.ofValue s.populate
  let relations := schema.relations.entries.filter fun r => wanted.includes r.1
  let p ← populate m table relations { columns }
  let query := ((← p.query.select (.list p.columns)).fromTable table).whereAll
    (← qualifiedFilter table filter)
  let statement ← (← arranged query s).render
  sending m route statement fun reply => do (← reply.toItems).mapM (hydrate fns m p.joined)

def findOne (fns : Functions) (m : ModelClass) (filter : Value) (s : Search) (route : Route κ) :
    Action Catalog (Request κ (Option Record)) := do
  return (← findMany fns m filter { s with limit := .int 1 } route).map List.head?

def findOneById (fns : Functions) (m : ModelClass) (id : Value) (s : Search) (route : Route κ) :
    Action Catalog (Request κ (Option Record)) := do
  let schema ← m.schema
  findOne fns m (.dict [(.text schema.key, id)]) s route

end Operation

end RecordMapper
