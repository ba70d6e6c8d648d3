import RecordMapper.Function.Basic
import RecordMapper.Text.Uppercase

/-!
A catalogue of named functions and of named row hooks: predicates, payload transforms and functions
that fail in every way a function can fail.
-/
namespace RecordMapper.Function

def titleOf : Value → Value
  | .dict es => ((OrderedMap.ofEntries es : Mapping).get? (.text "title")).getD .null
  | _ => .null

def catalogue : Functions := fun name v =>
  match name with
  | "true" => pure (.bool true)
  | "false" => pure (.bool false)
  | "self" => pure v
  | "zero" => pure (.int 0)
  | "text" => pure (.text "x")
  | "empty_list" => pure (.list [])
  | "none" => pure .null
  | "even" =>
    match v with
    | .int n => pure (.bool (n % 2 == 0))
    | _ => throw (.refused "not an integer")
  | "short" =>
    match v with
    | .text _ | .looseText _ => pure (.bool ((v.length?.getD 0) < 3))
    | _ => throw (.refused "not a string")
  | "boom" => throw (.outside .runtime "boom")
  | "boom_empty" => throw (.outside .value "")
  | "boom_key" => throw (.outside .key "k")
  | "boom_abort" => throw (.outside .abort "abort")
  | "raise_big" => throw (.ofBreach .tooBig v)
  | "raise_undefined" => throw (.ofBreach .undefined v)
  | "titles" =>
    match v with
    | .list xs => pure (.list (xs.map titleOf))
    | v => pure v
  | "wrap" => pure (.dict [(.text "wrapped", v)])
  | "count" =>
    match v with
    | .list _ | .dict _ | .text _ | .looseText _ => pure (.int (v.length?.getD 0))
    | _ => pure .null
  | _ => throw .typeMismatch

def onMaps (failure : Error) (change : Mapping → Mapping) : RowHook := fun row =>
  match row.mapping? with
  | some m => pure (change m).toValue
  | none => throw failure

def capitalName (row : Mapping) : Mapping :=
  match row.get? (.text "name") with
  | some (.text s) => row.insert (.text "name") (.text (Text.upper s))
  | some (.looseText ns) => row.insert (.text "name") (.looseText (Text.upperPoints ns))
  | _ => row

def rowHook (name : String) : RowHook :=
  match name with
  | "upper_name" => onMaps .noAttribute capitalName
  | "only_id" =>
    onMaps .noAttribute fun row => .ofEntries [(.text "id", (row.get? (.text "id")).getD .null)]
  | "add_flag" => onMaps .typeMismatch (·.insert (.text "flag") (.bool true))
  | "undef_email" => onMaps .typeMismatch (·.insert (.text "email") .undefined)
  | "boom" => fun _ => throw (.outside .runtime "row boom")
  | _ => pure

end RecordMapper.Function
