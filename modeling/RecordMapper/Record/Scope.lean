import RecordMapper.Schema.Basic
import RecordMapper.Validation.Heal
import RecordMapper.Value.Convert

/-!
What is validated when a record is made: the fields that are there, all declared fields, no field,
or some fields by name. The fields that are there are checked as they stand; validation of all or of
named fields is full validation, which turns undefined fields into `null`.
-/
namespace RecordMapper

/-- Which fields are validated. -/
inductive Scope
  | present
  | all
  | nothing
  | only (names : List Value)

/-- The scope that an option asks for. Names may be given in any collection; one name may stand on
its own. -/
def Scope.ofValue : Value → Except Error Scope
  | .null => pure present
  | .bool true => pure all
  | .bool false => pure nothing
  | .text name => pure (only [.text name])
  | .looseText _ => pure nothing
  | v => do
    let names ← v.toItems
    if names.all Value.isHashable then return only names else throw .typeMismatch

namespace Schema

def presentFields (s : Schema) (values : Mapping) : Fields :=
  s.fields.filter fun name _ =>
    match values.get? (.text name) with
    | none | some .undefined => false
    | some _ => true

def namedFields (s : Schema) (names : List Value) : Fields :=
  .ofEntries (names.filterMap fun
    | .text name => (s.fields.get? name).map fun rules => (name, rules)
    | _ => none)

def healed (fns : Functions) (fields : Fields) (values : Mapping) : Except Error Mapping :=
  match Validation.normalize fns values.toValue fields.toValue with
  | (.ok (), after) => pure (after.mapping?.getD values)
  | (.error e, _) => throw e

def validated (fns : Functions) (s : Schema) (values : Mapping) : Scope → Except Error Mapping
  | .present => do
    Validation.validateObject fns values.toValue (s.presentFields values).toValue
    return values
  | .all => healed fns s.fields values
  | .nothing => pure values
  | .only names => healed fns (s.namedFields names) values

end Schema

end RecordMapper
