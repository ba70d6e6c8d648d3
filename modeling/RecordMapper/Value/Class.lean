import RecordMapper.Text.Encoding
import RecordMapper.Value.Equality

/-!
What kind of thing a value is: the classes it belongs to, whether it counts as true, how long it
is, what it lists, and whether it may be a key.
-/
namespace RecordMapper

def ValueClass.name : ValueClass → String
  | text => "str"
  | int => "int"
  | float => "float"
  | bool => "bool"
  | list => "list"
  | tuple => "tuple"
  | dict => "dict"
  | set => "set"
  | bytes => "bytes"
  | null => "NoneType"
  | object => "object"
  | date => "date"
  | uuid => "UUID"
  | decimal => "Decimal"
  | number => "Number"

def ValueClass.all : List ValueClass :=
  [text, int, float, bool, list, tuple, dict, set, bytes, null, object, date, uuid, decimal, number]

def ValueClass.ofName? (name : String) : Option ValueClass :=
  all.find? (·.name == name)

def ValueClass.qualifiedName : ValueClass → String
  | date => "datetime.date"
  | uuid => "uuid.UUID"
  | decimal => "decimal.Decimal"
  | number => "numbers.Number"
  | c => c.name

def RelationKind.label : RelationKind → String
  | hasOne => "HAS_ONE"
  | hasMany => "HAS_MANY"
  | other label => label

def Relation.parts (r : Relation) : List (String × Value) :=
  [("type", .text r.kind.label), ("model", .text r.model), ("local", .text r.localColumn),
    ("foreign", .text r.foreignColumn),
    ("columns", (r.columns.map fun cs => .list (cs.map .text)).getD .null),
    ("transform", (r.transform.map .callable).getD .null)]

namespace Value

def ofCodePoints (ns : List Nat) : Value :=
  match Text.ofCodePoints? ns with
  | some s => text s
  | none => looseText ns

@[simp] theorem ofCodePoints_codePoints (s : String) : ofCodePoints (Text.codePoints s) = text s := by
  simp [ofCodePoints]

def codePoints? : Value → Option (List Nat)
  | text s => some (Text.codePoints s)
  | looseText ns => some ns
  | _ => none

/-- Membership in a class. A truth value is also an integer, every numeric kind is a number, and
everything is an object. -/
def belongsTo : Value → ValueClass → Bool
  | _, .object => true
  | text _, .text | looseText _, .text | int _, .int | bool _, .int | float _, .float | bool _, .bool => true
  | list _, .list | tuple _, .tuple | dict _, .dict | set false _, .set | bytes _, .bytes => true
  | null, .null | date _ _ _, .date | uuid _, .uuid | decimal _, .decimal => true
  | int _, .number | bool _, .number | float _, .number | decimal _, .number => true
  | _, _ => false

def kindName : Value → String
  | null => "NoneType"
  | undefined => "_Undefined"
  | bool _ => "bool"
  | int _ => "int"
  | float _ => "float"
  | decimal _ => "decimal.Decimal"
  | text _ | looseText _ => "str"
  | bytes _ => "bytes"
  | list _ => "list"
  | tuple _ => "tuple"
  | set frozen _ => if frozen then "frozenset" else "set"
  | dict _ => "dict"
  | uuid _ => "UUID"
  | date _ _ _ => "datetime.date"
  | object => "object"
  | callable (.named _) => "function"
  | callable (.constructor .number) => "ABCMeta"
  | callable (.constructor _) => "type"
  | relation _ => "Relation"
  | record c _ _ | reference c _ => c.name

/-- A missing value was never provided or is `null`. -/
def isMissing : Value → Bool
  | null | undefined => true
  | _ => false

/-- Does the value count as true? Zeros, empty collections and missing values do not. -/
def truthy : Value → Bool
  | null | undefined => false
  | bool b => b
  | int n => n != 0
  | float x => !x.isZero
  | decimal x => !x.isZero
  | text s => !s.isEmpty
  | bytes bs => !bs.isEmpty
  | list xs | tuple xs | set _ xs => !xs.isEmpty
  | dict es => !es.isEmpty
  | _ => true

def length? : Value → Option Nat
  | text s => some s.length
  | looseText ns => some ns.length
  | bytes bs => some bs.length
  | list xs | tuple xs | set _ xs => some xs.length
  | dict es => some es.length
  | _ => none

/-- What a value lists when it is walked through: characters, bytes, members, keys, and for a
relation pairs of a name and a part. -/
def items? : Value → Option (List Value)
  | text s => some (s.toList.map fun c => text (String.singleton c))
  | looseText ns => some (ns.map fun n => ofCodePoints [n])
  | bytes bs => some (bs.map fun b => int b.toNat)
  | list xs | tuple xs | set _ xs => some xs
  | dict es => some (es.map (·.1))
  | relation r => some (r.parts.map fun p => tuple [text p.1, p.2])
  | _ => none

mutual

/-- May the value be a key of a map or a member of a set? Values that can change may not. -/
def isHashable : Value → Bool
  | list _ | dict _ | set false _ | relation _ | record _ _ _ | reference _ _ => false
  | decimal (.nan _ signaling _ _) => !signaling
  | tuple xs => allHashable xs
  | _ => true
termination_by structural v => v

def allHashable : List Value → Bool
  | [] => true
  | x :: xs => isHashable x && allHashable xs
termination_by structural xs => xs

end

def isIn (v : Value) (xs : List Value) : Bool :=
  xs.any fun x => v == x

def mapping? : Value → Option Mapping
  | dict es => some (.ofEntries es)
  | _ => none

@[simp] theorem isMissing_null : isMissing null = true := rfl
@[simp] theorem isMissing_undefined : isMissing undefined = true := rfl
@[simp] theorem truthy_bool (b : Bool) : truthy (bool b) = b := rfl

end Value

end RecordMapper
