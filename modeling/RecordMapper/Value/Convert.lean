import RecordMapper.Error

/-!
Values taken as something else: as a whole number, as a map, as the items they list.
-/
namespace RecordMapper.Value

def hexNumber (s : String) : Nat :=
  s.toList.foldl (fun n c => match Text.hexValue? c with | some d => 16 * n + d | none => n) 0

/-- A value as a whole number: fractions are cut off, texts and byte strings are read. -/
def toInteger : Value → Except Error Int
  | int n => pure n
  | bool b => pure (if b then 1 else 0)
  | float x =>
    match x with
    | .nan _ => throw .badValue
    | x => (x.truncate?.map pure).getD (throw .overflow)
  | decimal x =>
    match x with
    | .finite q => pure q.truncate
    | .infinite _ => throw .overflow
    | .nan _ _ _ _ => throw .badValue
  | text s => ((Number.integerOfText? s).map pure).getD (throw .badValue)
  | looseText _ => throw .badValue
  | bytes bs => ((Number.integerOfBytes? bs).map pure).getD (throw .badValue)
  | uuid s => pure (hexNumber s)
  | _ => throw .typeMismatch

def toItems (v : Value) : Except Error (List Value) :=
  (v.items?.map pure).getD (throw .typeMismatch)

def toEntry (v : Value) : Except Error (Value × Value) := do
  match ← v.toItems with
  | [k, w] => if k.isHashable then pure (k, w) else throw .typeMismatch
  | _ => throw .badValue

/-- A value as a map: a map itself, or a list of pairs. -/
def toMapping : Value → Except Error Mapping
  | dict es => pure (.ofEntries es)
  | v => do return .ofEntries (← (← v.toItems).mapM toEntry)

def toText : Value → Except Error Value
  | looseText ns => pure (looseText ns)
  | v =>
    match v.shown? with
    | some s => pure (text s)
    | none => throw .endless

def orEmpty (v : Value) : Value :=
  if v.truthy then v else dict []

def orIfEmpty (v : Value) (s : String) : Value :=
  if v.truthy then v else text s

/-- Why a value cannot do what values of some classes do: it has no such operation, unless it is one
of these classes, whose operation lacks a value to work on. -/
def operationError (classes : List ValueClass) : Value → Error
  | callable (.constructor c) => if classes.contains c then .typeMismatch else .noAttribute
  | _ => .noAttribute

@[simp] theorem toInteger_int (n : Int) : toInteger (int n) = .ok n := rfl

end RecordMapper.Value
