import RecordMapper.Number.Binary64
import RecordMapper.Number.Decimal

/-!
The values that records hold, rules constrain and statements bind. Values hold records, and records
may hold themselves: where a value comes back to a record, a reference stands in place of the record.
-/
namespace RecordMapper

open Number

/-- The classes that values can be tested for. -/
inductive ValueClass
  | text | int | float | bool | list | tuple | dict | set | bytes | null | object | date | uuid
  | decimal | number
deriving DecidableEq, Repr

/-- Something that can be applied to one value: a function known by name, or a class. -/
inductive Callable
  | named (name : String)
  | constructor (target : ValueClass)
deriving DecidableEq, Repr

/-- The kind of a relation: at most one related row for each owner, or any number of them. A label
that is neither is kept as it is and refused when the relation is compiled. -/
inductive RelationKind
  | hasOne
  | hasMany
  | other (label : String)
deriving DecidableEq, Repr

/-- A relation from an owner to the model registered under a name. -/
structure Relation where
  kind : RelationKind
  /-- The name of the target model. -/
  model : String
  localColumn : String
  foreignColumn : String
  /-- The target columns to fetch; by default all fields. -/
  columns : Option (List String)
  /-- Applied to the decoded payload. -/
  transform : Option Callable
deriving DecidableEq, Repr

/-- A model class, told from others by its number. -/
structure ClassRef where
  id : Nat
  name : String
deriving DecidableEq, Repr

inductive Value
  | null
  /-- Never provided, as opposed to `null`. -/
  | undefined
  | bool (b : Bool)
  | int (n : Int)
  | float (x : Binary64)
  | decimal (x : Decimal)
  | text (s : String)
  /-- A text with halves of surrogate pairs among its code points, which is no sequence of
  characters. -/
  | looseText (points : List Nat)
  | bytes (bs : List UInt8)
  | list (items : List Value)
  | tuple (items : List Value)
  | set (frozen : Bool) (members : List Value)
  | dict (entries : List (Value × Value))
  | uuid (canonical : String)
  | date (year month day : Nat)
  /-- An opaque thing that equals only itself. -/
  | object
  | callable (f : Callable)
  | relation (r : Relation)
  /-- A record of a model, with its attributes in order. A record that may still change has an
  identity, by which it is the same record wherever it is held. -/
  | record (model : ClassRef) (identity : Option Nat) (attributes : List (Value × Value))
  /-- A record whose attributes stand elsewhere: at a record around this place, or in a store. -/
  | reference (model : ClassRef) (identity : Nat)
deriving Repr, Inhabited

abbrev Entries := List (Value × Value)

end RecordMapper
