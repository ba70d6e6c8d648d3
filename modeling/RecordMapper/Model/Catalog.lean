import RecordMapper.Action
import RecordMapper.Function.Basic
import RecordMapper.Schema.Drift

/-!
Model classes, the databases they are registered on, and the targets of their relations. A class
without a schema, a row hook or a database of its own takes those of the class it extends. The
target of a relation is looked up once, in the registry of the database of the model, and does not
change afterwards.
-/
namespace RecordMapper

abbrev DatabaseId := Nat

/-- A relation as one thing, which may stand under several names and in several schemas. One that says the same
is told from it by the class that declared it first, and by its name there. -/
structure RelationRef where
  origin : Nat × String
  relation : Relation
deriving DecidableEq, Repr

structure Declared where
  schema : Schema
  origin : String → Nat × String

structure ModelClass where
  ref : ClassRef
  /-- The numbers of the class and of the classes it extends, from the class upwards. -/
  lineage : List Nat
  declared? : Option Declared
  hook : RowHook

namespace ModelClass

def schema (m : ModelClass) : Except Error Schema :=
  match m.declared? with
  | some declared => pure declared.schema
  | none => throw .noAttribute

def relation (m : ModelClass) (name : String) : Except Error Relation := do
  match (← m.schema).relations.get? name with
  | some r => return r
  | none => throw .missingMember

def relationRef (m : ModelClass) (name : String) (r : Relation) : RelationRef where
  origin := (m.declared?.map fun declared => declared.origin name).getD (m.ref.id, name)
  relation := r

end ModelClass

structure Catalog where
  /-- All classes; the number of a class is its place. -/
  classes : List ModelClass := []
  /-- The databases of classes that are registered themselves. -/
  bindings : OrderedMap Nat DatabaseId := .empty
  registry : DatabaseId → OrderedMap String ModelClass := fun _ => .empty
  /-- The targets of relations that have been looked up. -/
  targets : OrderedMap RelationRef ModelClass := .empty

instance : Inhabited Catalog := ⟨{}⟩

namespace Catalog

/-- A schema whose relations come from the class that is declared next. -/
def own (c : Catalog) (s : Schema) : Declared := ⟨s, fun name => (c.classes.length, name)⟩

def declare (c : Catalog) (name : String) (base : Option ModelClass) (declared : Option Declared)
    (hook : Option RowHook) : ModelClass × Catalog :=
  let id := c.classes.length
  let m : ModelClass :=
    { ref := ⟨id, name⟩
      lineage := id :: (base.map (·.lineage)).getD []
      declared? := declared <|> base.bind (·.declared?)
      hook := (hook <|> base.map (·.hook)).getD pure }
  (m, { c with classes := c.classes ++ [m] })

def class? (c : Catalog) (ref : ClassRef) : Option ModelClass := c.classes[ref.id]?

/-- The database of a class: its own, or that of the nearest class it extends. -/
def database? (c : Catalog) (m : ModelClass) : Option DatabaseId :=
  m.lineage.findSome? c.bindings.get?

def database (c : Catalog) (m : ModelClass) : Except Error DatabaseId :=
  match c.database? m with
  | some d => pure d
  | none => throw (.unboundClass m.ref.name)

def setRegistry (c : Catalog) (d : DatabaseId) (models : OrderedMap String ModelClass) : Catalog :=
  { c with registry := fun d' => if d' = d then models else c.registry d' }

def enter (c : Catalog) (d : DatabaseId) (name : String) (m : ModelClass) : Catalog :=
  { c.setRegistry d ((c.registry d).insert name m) with
    bindings := c.bindings.insert m.ref.id d }

/-- Registers a class under a name. That it has a schema is looked at afterwards. -/
def register (d : DatabaseId) (name : String) (m : ModelClass) : Action Catalog Unit := do
  modify fun c => c.enter d name m
  let _ ← m.schema
  return ()

def registerAs (d : DatabaseId) (name : Option String) (m : ModelClass) : Action Catalog Unit :=
  register d ((name.filter (!·.isEmpty)).getD m.ref.name) m

def model (c : Catalog) (d : DatabaseId) (name : String) : Except Error ModelClass :=
  match (c.registry d).get? name with
  | some m => pure m
  | none => throw (.unknownModel name)

/-- Empties the registry of a database; classes stay bound. -/
def clear (c : Catalog) (d : DatabaseId) : Catalog := c.setRegistry d .empty

def addColumns (columns : Columns) (m : ModelClass) : Except Error Columns := do
  let s ← m.schema
  return columns.insert s.table (((columns.get? s.table).getD []) ++ s.columns)

def expectedColumns (c : Catalog) (d : DatabaseId) : Except Error Columns :=
  (c.registry d).values.foldlM addColumns .empty

def target? (c : Catalog) (k : RelationRef) : Option ModelClass := c.targets.get? k

def keepTarget (c : Catalog) (k : RelationRef) (target : ModelClass) : Catalog :=
  { c with targets := c.targets.insert k target }

def resolve (d : DatabaseId) (k : RelationRef) : Action Catalog ModelClass := do
  let c ← get
  match c.target? k with
  | some target => return target
  | none =>
    match (c.registry d).get? k.relation.model with
    | none => throw (.noTarget k.relation.model)
    | some target =>
      set (c.keepTarget k target)
      return target

end Catalog

end RecordMapper
