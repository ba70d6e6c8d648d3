import RecordMapper.Validation.Rule
import RecordMapper.Value.Convert

/-!
Checking values against rule sets and objects against field declarations. Rules run in the order
of their entries and the first failure counts.
-/
namespace RecordMapper.Validation

/-- Checks one entry of a rule set; entries that name no rule are skipped. -/
def checkEntry (fns : Functions) (v : Value) (entry : Value × Value) : Except Error Unit :=
  match Rule.ofKey? entry.1 with
  | some rule => rule.check fns v entry.2
  | none => pure ()

def checkEntries (fns : Functions) (v : Value) : List (Value × Value) → Except Error Unit
  | [] => pure ()
  | entry :: entries => do
    checkEntry fns v entry
    checkEntries fns v entries

def entriesOf : Value → Except Error (List (Value × Value))
  | .dict es => pure es
  | v => throw (v.operationError [.dict])

def valueAt? (m : Value) (key : Value) : Except Error (Option Value) := do
  return ((← entriesOf m).find? fun e => e.1 == key).map (·.2)

/-- Checks a value against a rule set. An undefined value fails before any rule. -/
def validateValue (fns : Functions) (v rules : Value) : Except Error Unit :=
  match v with
  | .undefined => throw (.ofBreach .undefined v)
  | v => do checkEntries fns v (← entriesOf rules)

def isRequired (rules : Value) : Except Error Bool := do
  return ((← valueAt? rules (.text Rule.required.name)).getD .null).truthy

/-- Checks one field of an object. An absent field is skipped unless it is required; then it counts
as undefined. -/
def validateField (fns : Functions) (obj key rules : Value) : Except Error Unit := do
  unless ← key.memberOf obj do
    unless ← isRequired rules do return
  let v := (← valueAt? obj key).getD .undefined
  (validateValue fns v rules).mapError (·.atKey key)

def validateFields (fns : Functions) (obj : Value) : List (Value × Value) → Except Error Unit
  | [] => pure ()
  | field :: fields => do
    validateField fns obj field.1 field.2
    validateFields fns obj fields

def validateObject (fns : Functions) (obj fields : Value) : Except Error Unit := do
  validateFields fns obj (← entriesOf fields)

end RecordMapper.Validation
