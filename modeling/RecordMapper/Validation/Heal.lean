import RecordMapper.Validation.Check

/-!
Healing: validation that turns undefined fields into `null`. Whenever a field is reported as
undefined it is set to `null` and validation starts over; each field is healed at most once, so
there is one pass more than there are declared fields at the most.
-/
namespace RecordMapper.Validation

def setNull (obj key : Value) : Value :=
  match obj.mapping? with
  | some m => (m.insert key .null).toValue
  | none => obj

/-- Passes over the object, at most `passes` of them followed by a heal. `assign` is what storing
`null` under a key does to the object. -/
def healWith (fns : Functions) (assign : Value → Value → Value) (fields : Value) :
    (passes : Nat) → (healed : List Value) → (obj : Value) → Except Error Unit × Value
  | 0, _, obj => (validateObject fns obj fields, obj)
  | passes + 1, healed, obj =>
    match validateObject fns obj fields with
    | .ok _ => (.ok (), obj)
    | .error e =>
      match e.undefinedKey? with
      | none => (.error e, obj)
      | some key =>
        if key.isIn healed then (.error e, obj)
        else healWith fns assign fields passes (key :: healed) (assign obj key)

def fieldCount : Value → Nat
  | .dict es => es.length
  | _ => 0

def normalizeWith (fns : Functions) (assign : Value → Value → Value) (obj fields : Value) :
    Except Error Unit × Value :=
  healWith fns assign fields (fieldCount fields) [] obj

/-- Validates an object, turning undefined fields into `null`, and returns it as it is left. -/
def normalize (fns : Functions) (obj fields : Value) : Except Error Unit × Value :=
  normalizeWith fns setNull obj fields

end RecordMapper.Validation
