import RecordMapper.Record.Basic

/-!
Attributes that hide operations. An attribute stands in front of the operation of the same name. A
record that has one no longer offers the operation, nor those that are built on it, unless the
attribute is a class: then the blank value of the class takes the place of what the record answers.
-/
namespace RecordMapper

/-- The operations that records offer by name. -/
inductive RecordOperation
  | save | update | delete | values | primary | requirePrimary | toDict
deriving DecidableEq, Repr

def RecordOperation.name : RecordOperation → String
  | save => "save"
  | update => "update"
  | delete => "delete"
  | values => "get_values"
  | primary => "get_primary"
  | requirePrimary => "_require_primary"
  | toDict => "to_dict"

namespace Record

def hiding? (r : Record) (o : RecordOperation) : Option Value := r.attributes.get? (.text o.name)

def offer (r : Record) (o : RecordOperation) : Except Error Unit :=
  if (r.hiding? o).isSome then throw .typeMismatch else pure ()

/-- What a record answers when it is asked by the name of an operation. `own` is the answer of the
operation itself. -/
def ask (r : Record) (o : RecordOperation) (own : Except Error Value) : Except Error Value :=
  match r.hiding? o with
  | none => own
  | some (.callable (.constructor c)) => c.blank
  | some _ => throw .typeMismatch

def askValues (r : Record) (skipNull : Bool) : Except Error Value :=
  r.ask .values (pure (r.values skipNull).toValue)

def askPrimary (r : Record) : Except Error Value := r.ask .primary (pure r.primary.toValue)

/-- The primary keys of a record that is asked for them, which have to be a map. -/
def askKeys (r : Record) : Except Error Mapping := do
  match (← r.askPrimary).mapping? with
  | some keys => return keys
  | none => throw .noAttribute

theorem ask_eq_own {r : Record} {o : RecordOperation} (h : r.hiding? o = none)
    (own : Except Error Value) : r.ask o own = own := by
  rw [ask, h]

end Record

end RecordMapper
