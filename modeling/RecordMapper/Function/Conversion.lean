import RecordMapper.Value.Convert
import RecordMapper.Value.Literal
import RecordMapper.Value.SetOrder

/-!
Classes as functions. A class takes some values of other classes: texts and numbers are read, items are
listed. What it does not take it refuses with a reason, which quotes the value or names its kind.
-/
namespace RecordMapper

namespace Value

mutual

def unhashable? : Value → Option String
  | decimal (.nan _ true _ _) => some "Cannot hash a signaling NaN value"
  | tuple xs => firstUnhashable? xs
  | v => if v.isHashable then none else some ("unhashable type: '" ++ v.kindName ++ "'")
termination_by structural v => v

def firstUnhashable? : List Value → Option String
  | [] => none
  | x :: xs => unhashable? x <|> firstUnhashable? xs
termination_by structural xs => xs

end

end Value

namespace ValueClass

def refuse {α : Type} (kind : MisfitKind) (reason : String) : Except Error α := throw (.misfit kind reason)

/-! What a value lists. -/

def items (v : Value) : Except Error (List Value) :=
  match v.items? with
  | some items => pure items
  | none => refuse .type ("'" ++ v.kindName ++ "' object is not iterable")

def entry (numbered : Value × Nat) : Except Error (Value × Value) :=
  let (v, n) := numbered
  match v.items? with
  | none => refuse .type s!"cannot convert dictionary update sequence element #{n} to a sequence"
  | some [k, w] =>
    match k.unhashable? with
    | none => pure (k, w)
    | some reason => refuse .type reason
  | some items =>
    let count := items.length
    refuse .value s!"dictionary update sequence element #{n} has length {count}; 2 is required"

def mapping : Value → Except Error Mapping
  | .dict es => pure (.ofEntries es)
  | .callable (.constructor dict) => refuse .type "unbound method dict.keys() needs an argument"
  | v => do return .ofEntries (← (← items v).zipIdx.mapM entry)

def index : Value → Except Error Int
  | .int n => pure n
  | .bool b => pure (if b then 1 else 0)
  | v => refuse .type ("'" ++ v.kindName ++ "' object cannot be interpreted as an integer")

def byte (v : Value) : Except Error UInt8 := do
  let n ← index v
  if 0 ≤ n ∧ n < 256 then return UInt8.ofNat n.toNat
  refuse .value "bytes must be in range(0, 256)"

def zeros (n : Int) : Except Error (List UInt8) :=
  if n < 0 then refuse .value "negative count"
  else if n < Nat.pow 2 63 then pure (List.replicate n.toNat 0)
  else refuse .overflow "cannot fit 'int' into an index-sized integer"

def byteString : Value → Except Error (List UInt8)
  | .bytes bs => pure bs
  | .int n => zeros n
  | .bool b => zeros (if b then 1 else 0)
  | .text _ | .looseText _ => refuse .type "string argument without an encoding"
  | v =>
    match v.items? with
    | some items => items.mapM byte
    | none => refuse .type ("cannot convert '" ++ v.kindName ++ "' object to bytes")

/-! Numbers. -/

def digitCount? : Value → Option Nat
  | .text s =>
    let digits := (Number.splitSign ((Text.dropEnds Text.isSpace s.toList).map Number.plainDigit)).2
    (Number.ungroup? digits).map List.length
  | .bytes bs =>
    let digits := (Number.splitSign (Text.dropEnds Text.isSpace (bs.map fun b => Char.ofNat b.toNat))).2
    (Number.ungroup? digits).map List.length
  | _ => none

/-- Why a text is no whole number. Of a long text only the start is quoted. -/
def integerReason (v : Value) : String :=
  match digitCount? v with
  | some count =>
    s!"Exceeds the limit (4300 digits) for integer string conversion: value has {count} digits; " ++
      "use sys.set_int_max_str_digits() to increase the limit"
  | none => "invalid literal for int() with base 10: " ++ String.ofList (v.display.toList.take 200)

def integer (v : Value) : Except Error Int :=
  match v, v.toInteger with
  | _, .ok n => pure n
  | .float (.nan _), _ => refuse .value "cannot convert float NaN to integer"
  | .float _, _ => refuse .overflow "cannot convert float infinity to integer"
  | .decimal (.nan _ _ _ _), _ => refuse .value "cannot convert NaN to integer"
  | .decimal _, _ => refuse .overflow "cannot convert Infinity to integer"
  | .text _, _ | .looseText _, _ | .bytes _, _ => refuse .value (integerReason v)
  | _, _ =>
    refuse .type ("int() argument must be a string, a bytes-like object or a real number, not '" ++
      v.kindName ++ "'")

def joinDigits? : (behindDigit : Bool) → List Char → Option (List Char)
  | _, [] => some []
  | behindDigit, '_' :: c :: cs =>
    if behindDigit && c.isDigit then (joinDigits? true cs).map (c :: ·) else none
  | _, c :: cs => if c = '_' then none else (joinDigits? c.isDigit cs).map (c :: ·)

def binary64? (cs : List Char) : Option Number.Binary64 := do
  let cs ← joinDigits? false (Text.dropEnds Text.isSpace cs)
  match Number.Numeral.ofChars? cs with
  | some x => some (.ofNumeral x)
  | none =>
    let (negative, cs) := Number.splitSign cs
    match String.ofList (cs.map Char.toLower) with
    | "inf" | "infinity" => some (.infinite negative)
    | "nan" => some (.nan 0)
    | _ => none

def floating (v : Value) : Except Error Number.Binary64 :=
  let read (cs : List Char) : Except Error Number.Binary64 :=
    match binary64? cs with
    | some x => pure x
    | none => refuse .value ("could not convert string to float: " ++ v.display)
  let whole (n : Int) : Except Error Number.Binary64 :=
    match Number.Binary64.ofRatio (n < 0) n.natAbs 1 with
    | .infinite _ => refuse .overflow "int too large to convert to float"
    | x => pure x
  match v with
  | .float x => pure x
  | .int n => whole n
  | .bool b => whole (if b then 1 else 0)
  | .decimal (.finite x) => pure (.ofNumeral x)
  | .decimal (.infinite negative) => pure (.infinite negative)
  | .decimal (.nan _ true _ _) => refuse .value "cannot convert signaling NaN to float"
  | .decimal (.nan _ false _ _) => pure (.nan 0)
  | .text s => read (s.toList.map Number.plainDigit)
  | .looseText _ => read ['?']
  | .bytes bs => read (bs.map fun b => if b < 0x80 then Char.ofNat b.toNat else '?')
  | v => refuse .type ("float() argument must be a string or a real number, not '" ++ v.kindName ++ "'")

def negative : Value → Except Error Bool
  | .int 0 | .bool false => pure false
  | .int 1 | .bool true => pure true
  | _ => refuse .value "sign must be an integer with the value 0 or 1"

def digit : Value → Except Error Nat
  | .bool b => pure (if b then 1 else 0)
  | .int d => if 0 ≤ d ∧ d ≤ 9 then pure d.toNat else refuse .value "coefficient must be a tuple of digits"
  | _ => refuse .value "coefficient must be a tuple of digits"

def coefficient : Value → Except Error Nat
  | .list ds | .tuple ds => do return (← ds.mapM digit).foldl (fun n d => 10 * n + d) 0
  | _ => refuse .value "coefficient must be a tuple of digits"

def decimalOfParts (sign digits exponent : Value) : Except Error Number.Decimal := do
  let negative ← negative sign
  match exponent with
  | .int e => return .finite ⟨negative, ← coefficient digits, e⟩
  | .bool e => return .finite ⟨negative, ← coefficient digits, if e then 1 else 0⟩
  | .text "F" =>
    let _ ← coefficient digits
    return .infinite negative
  | .text "n" => return .nan negative false (payload (← coefficient digits)) 0
  | .text "N" => return .nan negative true (payload (← coefficient digits)) 0
  | .text _ | .looseText _ =>
    refuse .value "string argument in the third position must be 'F', 'n' or 'N'"
  | _ => refuse .value "exponent must be an integer"
where
  payload (n : Nat) : List Char := if n = 0 then [] else Number.digitsOf n

def exact (v : Value) : Except Error Number.Decimal :=
  let whole (n : Int) : Number.Decimal := .finite ⟨n < 0, n.natAbs, 0⟩
  match v with
  | .decimal x => pure x
  | .int n => pure (whole n)
  | .bool b => pure (whole (if b then 1 else 0))
  | .float x => pure (.ofBinary64 x)
  | .text s =>
    match Number.Decimal.ofText? s 0 with
    | some x => pure x
    | none => refuse .arithmetic "[<class 'decimal.ConversionSyntax'>]"
  | .looseText _ => refuse .arithmetic "[<class 'decimal.ConversionSyntax'>]"
  | .list [sign, digits, exponent] | .tuple [sign, digits, exponent] =>
    decimalOfParts sign digits exponent
  | .list _ | .tuple _ => refuse .value "argument must be a sequence of length 3"
  | v => refuse .type ("conversion from " ++ v.kindName ++ " to Decimal is not supported")

/-! Dates. -/

def packed? : List Nat → Option Value
  | [high, low, month, day] =>
    if 1 ≤ month ∧ month ≤ 12 then some (.date (256 * high + low) month day) else none
  | _ => none

/-- A year on its own is no date. -/
def year (v : Value) : Except Error Value := do
  let n ← index v
  if n < -Nat.pow 2 63 ∨ Nat.pow 2 63 ≤ n then refuse .overflow "Python int too large to convert to C long"
  else if n < -Nat.pow 2 31 then refuse .overflow "signed integer is less than minimum"
  else if Nat.pow 2 31 ≤ n then refuse .overflow "signed integer is greater than maximum"
  else refuse .type "function missing required argument 'month' (pos 2)"

def calendarDay (v : Value) : Except Error Value :=
  let ns := match v with
    | .bytes bs => bs.map UInt8.toNat
    | v => v.codePoints?.getD []
  match packed? ns with
  | none => year v
  | some day =>
    if ns.all (· < 256) then pure day
    else refuse .value ("Failed to encode latin1 string when unpickling a date object. " ++
      "pickle.load(data, encoding='latin1') is assumed.")

/-! Identifiers. -/

def identifierReason (digits : List Char) : String :=
  if digits.length = 32 then "invalid literal for int() with base 16: " ++ Text.quoted (String.ofList digits)
  else "badly formed hexadecimal UUID string"

def identifier : Value → Except Error String
  | .text s =>
    match Value.uuidOfText? s with
    | some canonical => pure canonical
    | none => refuse .value (identifierReason (Value.uuidDigits s))
  | .looseText ns => refuse .value (identifierReason (Value.uuidDigits (Text.nearest ns)))
  | .null => refuse .type "one of the hex, bytes, bytes_le, fields, or int arguments must be given"
  | .bytes _ => refuse .type "a bytes-like object is required, not 'str'"
  | .date _ _ _ => refuse .type "'str' object cannot be interpreted as an integer"
  | .callable (.constructor c) =>
    match c with
    | text => refuse .type "replace expected at least 2 arguments, got 1"
    | bytes => refuse .type "descriptor 'replace' for 'bytes' objects doesn't apply to a 'str' object"
    | date => refuse .type "descriptor 'replace' for 'datetime.date' objects doesn't apply to a 'str' object"
    | decimal => refuse .attribute "type object 'decimal.Decimal' has no attribute 'replace'"
    | c => refuse .attribute ("type object '" ++ c.name ++ "' has no attribute 'replace'")
  | v => refuse .attribute ("'" ++ v.kindName ++ "' object has no attribute 'replace'")

def convert (v : Value) : ValueClass → Except Error Value
  | bool => pure (.bool v.truthy)
  | text => v.toText
  | int => do return .int (← integer v)
  | float => do return .float (← floating v)
  | decimal => do return .decimal (← exact v)
  | list => do return .list (← items v)
  | tuple => do return .tuple (← items v)
  | set => do
    let members ← items v
    match Value.firstUnhashable? members with
    | none => return .ofMembers false members
    | some reason => refuse .type reason
  | dict => do return (← mapping v).toValue
  | bytes => do return .bytes (← byteString v)
  | uuid => do return .uuid (← identifier v)
  | date => calendarDay v
  | null => refuse .type "NoneType takes no arguments"
  | object => refuse .type "object() takes no arguments"
  | number => refuse .type "Number() takes no arguments"

end ValueClass

end RecordMapper
