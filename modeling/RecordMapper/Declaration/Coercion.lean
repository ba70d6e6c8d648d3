import RecordMapper.Error
import RecordMapper.Text.Encoding

/-!
Reading the parts of a declaration. Each part is taken as the type that is declared for it, with a
few conversions that lose nothing; what does not fit is reported at its place. The issues of all
parts are collected, in the order of the parts.
-/
namespace RecordMapper.Declaration

abbrev Checked (α : Type) := Except (List Issue) α

def faulty {α : Type} (fault : Fault) : Checked α := .error [⟨[], fault⟩]

namespace Checked

def under {α : Type} (s : Step) (x : Checked α) : Checked α :=
  x.mapError fun issues => issues.map (·.under s)

def both {α β : Type} (x : Checked α) (y : Checked β) : Checked (α × β) :=
  match x, y with
  | .ok a, .ok b => .ok (a, b)
  | .ok _, .error js => .error js
  | .error is, .ok _ => .error is
  | .error is, .error js => .error (is ++ js)

def all {α : Type} : List (Checked α) → Checked (List α)
  | [] => .ok []
  | x :: xs => (x.both (all xs)).map fun p => p.1 :: p.2

def orRaise {α : Type} (x : Checked α) : Except Error α := x.mapError .declaration

end Checked

def arguments (v : Value) : Except Error (OrderedMap String Value) :=
  match v with
  | .dict es => do
    let named ← es.mapM fun
      | (.text k, v) => pure (k, v)
      | _ => throw .typeMismatch
    return .ofEntries named
  | _ => throw .typeMismatch

def required {α : Type} (args : OrderedMap String Value) (name : String)
    (read : Value → Checked α) : Checked α :=
  match args.get? name with
  | some v => (read v).under (.field name)
  | none => (faulty .missing : Checked α).under (.field name)

def optional {α : Type} (args : OrderedMap String Value) (name : String) (default : α)
    (read : Value → Checked α) : Checked α :=
  match args.get? name with
  | some v => (read v).under (.field name)
  | none => .ok default

def nullable {α : Type} (read : Value → Checked α) : Value → Checked (Option α)
  | .null => .ok none
  | v => (read v).map some

/-- A text that can be encoded, which may be given as UTF-8 bytes. -/
def text : Value → Checked String
  | .text s => .ok s
  | .looseText _ => faulty .badEncoding
  | .bytes bs =>
    match Text.ofUtf8? bs with
    | some s => .ok s
    | none => faulty .badEncoding
  | _ => faulty .notText

/-- A list of texts, which may be given as anything that lists values and is no text or map. -/
def texts (v : Value) : Checked (List String) :=
  match v, v.items? with
  | .text _, _ | .looseText _, _ | .bytes _, _ | .dict _, _ | _, none => faulty .notList
  | _, some xs => Checked.all (xs.zipIdx.map fun x => (text x.1).under (.index x.2))

def callable : Value → Checked Callable
  | .callable f => .ok f
  | _ => faulty .notCallable

/-- The step to the entry of a key. A number is a position only within the range of 64 bits. -/
def keyStep : Value → Step
  | .text s => .field s
  | .int n =>
    if -Nat.pow 2 63 ≤ n ∧ n < Nat.pow 2 63 then .index n else .field (Value.int n).display
  | .bool b => .index (if b then 1 else 0)
  | k => .field k.display

def entry {α : Type} (read : Value → Checked α) (e : Value × Value) : Checked (String × α) :=
  (((text e.1).under (.field "[key]")).both (read e.2)).under (keyStep e.1)

def dictOf {α : Type} (read : Value → Checked α) : Value → Checked (OrderedMap String α)
  | .dict es => (Checked.all (es.map (entry read))).map .ofEntries
  | _ => faulty .notDict

/-- Leading zeros of a whole number and the underscores among them are dropped, one zero is kept
where no other digit follows. A minus sign may stand behind them; anything else is refused. -/
def stripLeadingZeros : List Char → Option (List Char)
  | '0' :: cs => go '0' cs
  | c :: cs => if c.isDigit || c == '-' then some (c :: cs) else none
  | [] => none
where
  /-- The rest of a number behind a leading zero; `last` is the character before it. -/
  go (last : Char) : List Char → Option (List Char)
    | [] => some [last]
    | '.' :: cs => some (last :: '.' :: cs)
    | c :: cs =>
      if c == '0' || c == '_' then go c cs
      else if c.isDigit || c == '-' then some (c :: cs)
      else none

def stripZeroFraction (cs : List Char) : List Char :=
  let (whole, rest) := cs.span (· != '.')
  match rest with
  | '.' :: '0' :: zeros => if zeros.all (· == '0') then whole else cs
  | _ => cs

def hasLooseUnderscore : List Char → Bool
  | [] => false
  | ['_'] => true
  | '_' :: '_' :: _ => true
  | _ :: cs => hasLooseUnderscore cs

def stripUnderscores (cs : List Char) : List Char :=
  if cs.head? == some '_' || hasLooseUnderscore cs then cs else cs.filter (· != '_')

def plainInteger? (cs : List Char) : Option Int :=
  let (negative, digits) := match cs with
    | '-' :: cs => (true, cs)
    | cs => (false, cs)
  if digits.isEmpty || !digits.all Char.isDigit || Number.longestInteger < digits.length then none
  else if digits.head? == some '0' && digits.length != 1 then none
  else
    let n : Nat := Number.positional digits
    some (if negative then -n else n)

def stripPlus : List Char → Option (List Char)
  | '+' :: '-' :: _ => none
  | '+' :: cs => some cs
  | cs => some cs

/-- The text of a whole number without blanks around it, plus sign, superfluous zeros and
underscores. A minus sign in front is kept. -/
def bareInteger? (s : String) : Option (List Char) := do
  let cs ← stripPlus (Text.dropEnds Text.isSpace s.toList)
  let bare ← match cs with
    | '-' :: cs => (stripLeadingZeros cs).map ('-' :: ·)
    | cs => stripLeadingZeros cs
  return stripUnderscores (stripZeroFraction bare)

def startsOverlong (cs : List Char) : Bool :=
  let cs := match cs with
    | '-' :: cs => cs
    | cs => cs
  cs.head? != some '0' && Number.longestInteger < (cs.takeWhile Char.isDigit).length

/-- Floating-point numbers are whole numbers only strictly within the range of 64 bits. -/
def integerOfFloat (x : Number.Binary64) : Checked Int :=
  match x.toExtended with
  | .finite x =>
    match x.integer? with
    | some n => if n.natAbs < Nat.pow 2 63 then .ok n else faulty .overlongInteger
    | none => faulty .hasFraction
  | _ => faulty .notFinite

/-- A whole number, which may be given as a number without fraction or as a text. -/
def integer : Value → Checked Int
  | .int n => .ok n
  | .bool b => .ok (if b then 1 else 0)
  | .float x => integerOfFloat x
  | .decimal x =>
    match x with
    | .finite x => (x.integer?.map Except.ok).getD (faulty .hasFraction)
    | _ => faulty .notFinite
  | .text s => ofText s
  | .looseText _ => faulty .notIntegerText
  | .bytes bs => ((Text.ofUtf8? bs).map ofText).getD (faulty .notIntegerText)
  | _ => faulty .notInteger
where
  ofText (s : String) : Checked Int :=
    if startsOverlong s.toList then faulty .overlongInteger
    else (((bareInteger? s).bind plainInteger?).map Except.ok).getD (faulty .notIntegerText)

end RecordMapper.Declaration
