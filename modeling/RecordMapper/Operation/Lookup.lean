import RecordMapper.Operation.Read
import RecordMapper.Record.Hiding

/-!
Finding a record by the values of another one. The search runs on the model of the record that is
given, and asks for everything that the record has a value for.
-/
namespace RecordMapper

def Mapping.asFilter (primary values : Mapping) : Mapping :=
  (primary.insertAll values.entries).filter fun _ v =>
    match v with
    | .null => false
    | _ => true

def Record.asFilter (r : Record) : Except Error Mapping := do
  match (← r.askPrimary).mapping?, (← r.askValues false).mapping? with
  | some primary, some values => return primary.asFilter values
  | _, _ => throw .typeMismatch

def Operation.findOneByPartial {κ : Type} (fns : Functions) (partialRecord : Value)
    (options : List (String × Value)) (route : Route κ) :
    Action Catalog (Request κ (Option Record)) := do
  match (← get).record? partialRecord with
  | none => throw .partialNotRecord
  | some r =>
    let filter ← r.asFilter
    findOne fns r.model filter.toValue (← Search.ofOptions options) route

end RecordMapper
