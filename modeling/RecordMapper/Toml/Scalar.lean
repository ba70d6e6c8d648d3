import RecordMapper.Calendar
import RecordMapper.Toml.Text
import RecordMapper.Value.Equality

/-!
The scalars of a TOML document: dates and times, numbers and truth values. Dates have to exist in
the calendar. Of dates with a time and of times only the validity matters, so they are opaque.
-/
namespace RecordMapper.Toml

open Number Calendar

inductive Flaw
  | malformed
  /-- A whole number is too long to be read. -/
  | overlongNumber
deriving DecidableEq, Repr

def expected {α : Type} (part : Option α) : Except Flaw α :=
  match part with
  | some a => .ok a
  | none => .error .malformed

def time? (cs : List Char) : Option (List Char) := do
  let (_, cs) ← twoDigits? 23 cs
  let (_, cs) ← twoDigits? 59 (← char? (· == ':') cs)
  let (_, cs) ← twoDigits? 59 (← char? (· == ':') cs)
  match cs with
  | '.' :: more =>
    let (fraction, rest) := more.span Char.isDigit
    return if fraction.isEmpty then cs else rest
  | cs => return cs

def offset (cs : List Char) : List Char :=
  let distance? : Option (List Char) := do
    let cs ← char? (fun c => c == '+' || c == '-') cs
    let (_, cs) ← twoDigits? 23 cs
    let (_, cs) ← twoDigits? 59 (← char? (· == ':') cs)
    return cs
  (char? (fun c => c == 'Z' || c == 'z') cs).getD (distance?.getD cs)

def readDate (date : Date) (cs : List Char) : Option (Value × List Char) :=
  let (year, month, day) := date
  if !occurs date then none
  else
    let timed? : Option (List Char) := do
      time? (← char? (fun c => c == 'T' || c == 't' || c == ' ') cs)
    match timed? with
    | some rest => some (.object, offset rest)
    | none => some (.date year month day, cs)

/-- Digits of a class, grouped by single underscores; at least one. -/
def grouped (isDigit : Char → Bool) : List Char → List Char × List Char
  | c :: '_' :: d :: cs =>
    if isDigit c && isDigit d then
      let (ds, rest) := grouped isDigit (d :: cs)
      (c :: ds, rest)
    else if isDigit c then ([c], '_' :: d :: cs)
    else ([], c :: '_' :: d :: cs)
  | c :: cs =>
    if isDigit c then
      let (ds, rest) := grouped isDigit cs
      (c :: ds, rest)
    else ([], c :: cs)
  | [] => ([], [])

def readBased (base : Nat) (isDigit : Char → Bool) (cs : List Char) : Option (Value × List Char) :=
  let (ds, rest) := grouped isDigit cs
  if ds.isEmpty then none
  else
    let n : Nat := ds.foldl (fun n c => base * n + (Text.hexValue? c).getD 0) 0
    some (.int n, rest)

def marked (mark : List Char → Option (List Char)) (cs : List Char) :
    Option (List Char × List Char) := do
  let (ds, rest) := grouped Char.isDigit (← mark cs)
  if ds.isEmpty then none else some (ds, rest)

/-- A decimal number, whole or floating-point. A whole part does not start with a zero; the length
of a whole number is bounded. -/
def readDecimal (cs : List Char) : Except Flaw (Value × List Char) := do
  let (negative, body) := splitSign cs
  let (whole, rest) := match body with
    | '0' :: rest => (['0'], rest)
    | body => grouped Char.isDigit body
  if whole.isEmpty then throw .malformed
  let fraction := marked (char? (· == '.')) rest
  let rest := (fraction.map (·.2)).getD rest
  let sign := fun cs => (char? (fun c => c == 'e' || c == 'E') cs).map splitSign
  let exponent := do
    let (negative, cs) ← sign rest
    let (ds, rest) ← marked some cs
    let n : Nat := positional ds
    return ((if negative then -n else n : Int), rest)
  let rest := (exponent.map (·.2)).getD rest
  if fraction.isNone && exponent.isNone then
    if longestInteger < whole.length then throw .overlongNumber
    let n : Nat := positional whole
    return (.int (if negative then -n else n), rest)
  else
    let digits := (fraction.map (·.1)).getD []
    let power := (exponent.map (·.1)).getD 0
    return (.float (.ofNumeral (.ofParts negative whole digits power)), rest)

def readNumber (cs : List Char) : Except Flaw (Value × List Char) :=
  let based := match cs with
    | '0' :: 'x' :: rest => readBased 16 (fun c => (Text.hexValue? c).isSome) rest
    | '0' :: 'b' :: rest => readBased 2 (fun c => c == '0' || c == '1') rest
    | '0' :: 'o' :: rest => readBased 8 (fun c => '0' ≤ c && c ≤ '7') rest
    | _ => none
  (based.map Except.ok).getD (readDecimal cs)

def words : List (String × Value) :=
  [("true", .bool true), ("false", .bool false)]

def numberWords : List (String × Value) :=
  [("inf", .float (.infinite false)), ("nan", .float (.nan 0)), ("+inf", .float (.infinite false)),
    ("-inf", .float (.infinite true)), ("+nan", .float (.nan 0)), ("-nan", .float (.nan 0))]

def readWord (words : List (String × Value)) (cs : List Char) : Option (Value × List Char) :=
  (words.find? fun w => w.1.toList.isPrefixOf cs).map fun w => (w.2, cs.drop w.1.length)

/-- A truth value, a date or a time, or a number. A date that does not exist is no number either. -/
def readScalar (cs : List Char) : Except Flaw (Value × List Char) :=
  match readWord words cs with
  | some r => .ok r
  | none =>
    match dateForm? cs with
    | some (date, rest) => expected (readDate date rest)
    | none =>
      match time? cs with
      | some rest => .ok (.object, rest)
      | none =>
        match readNumber cs with
        | .error .malformed => expected (readWord numberWords cs)
        | r => r

end RecordMapper.Toml
