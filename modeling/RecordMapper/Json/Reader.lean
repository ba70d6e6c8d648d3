import RecordMapper.Error
import RecordMapper.Text.Encoding

/-!
Reading JSON. Objects keep the order of their members; of equal keys the last value counts. The
names of infinities and of the non-number are accepted as numbers. A text that is no JSON is
refused with its first fault and the place of it. A document is read character by character; the texts
in it are lists of code points, because escapes may name halves of surrogate pairs.
-/
namespace RecordMapper.Json

inductive Stop
  /-- A problem at the place where so many characters are left. -/
  | fault (problem : Problem) (left : Nat)
  /-- A whole number is too long to be read. -/
  | overlongNumber
deriving DecidableEq, Repr

abbrev Rest (α : Type) := α × List Char

def stop {α : Type} (problem : Problem) (cs : List Char) : Except Stop α :=
  .error (.fault problem cs.length)

def isSpace (c : Char) : Bool := c == ' ' || c == '\t' || c == '\n' || c == '\r'

def skip (cs : List Char) : List Char := cs.dropWhile isSpace

def shortEscape? : Char → Option Char
  | '"' => some '"'
  | '\\' => some '\\'
  | '/' => some '/'
  | 'b' => some '\x08'
  | 'f' => some '\x0c'
  | 'n' => some '\n'
  | 'r' => some '\r'
  | 't' => some '\t'
  | _ => none

def hexUnit? : List Char → Option Nat
  | a :: b :: c :: d :: _ :: _ => do
    return (((← Text.hexValue? a) * 16 + (← Text.hexValue? b)) * 16 + (← Text.hexValue? c)) * 16
      + (← Text.hexValue? d)
  | _ => none

def isHigh (n : Nat) : Bool := 0xd800 ≤ n && n < 0xdc00

def isLow (n : Nat) : Bool := 0xdc00 ≤ n && n < 0xe000

/-- The code point of an escape and the number of characters behind the backslash that it takes.
`start` is what was left at the start of the text. -/
def readEscape (start : Nat) : List Char → Except Stop (Nat × Nat)
  | [] => .error (.fault .unterminatedString start)
  | 'u' :: cs =>
    match hexUnit? cs with
    | none => stop .badUnicodeEscape ('u' :: cs)
    | some n =>
      if isHigh n then
        match cs.drop 4 with
        | '\\' :: 'u' :: ds =>
          if ds.length < 5 then .ok (n, 5)
          else match hexUnit? ds with
            | none => stop .badUnicodeEscape ('u' :: ds)
            | some m =>
              if isLow m then
                .ok (0x10000 + (n - 0xd800) * 1024 + (m - 0xdc00), 11)
              else .ok (n, 5)
        | _ => .ok (n, 5)
      else .ok (n, 5)
  | c :: cs =>
    match shortEscape? c with
    | some d => .ok (d.toNat, 1)
    | none => .error (.fault .badEscape (cs.length + 2))

/-- The code points of a text up to the closing quote; the first `used` characters belong to an
escape that was read before. `point` is the code point that a character of the document stands for. -/
def readPoints (point : Char → Nat) (start : Nat) :
    Nat → List Char → Except Stop (Rest (List Nat))
  | _, [] => .error (.fault .unterminatedString start)
  | used + 1, _ :: cs => readPoints point start used cs
  | 0, '"' :: cs => .ok ([], cs)
  | 0, '\\' :: cs => do
    let (n, used) ← readEscape start cs
    let (text, rest) ← readPoints point start used cs
    return (n :: text, rest)
  | 0, c :: cs => do
    if c.toNat < 0x20 then stop .controlCharacter (c :: cs)
    let (text, rest) ← readPoints point start 0 cs
    return (point c :: text, rest)

def readText (point : Char → Nat) (cs : List Char) : Except Stop (Rest Value) := do
  let (ns, rest) ← readPoints point (cs.length + 1) 0 cs
  return (.ofCodePoints ns, rest)

def exponent? : List Char → Option (Int × List Char)
  | e :: cs =>
    if e = 'e' ∨ e = 'E' then
      let (negative, cs) := Number.splitSign cs
      let (digits, rest) := Number.spanDigits cs
      if digits.isEmpty then none
      else
        let n : Nat := Number.positional digits
        some (if negative then -n else n, rest)
    else none
  | [] => none

def fraction? : List Char → Option (List Char × List Char)
  | '.' :: cs =>
    let (digits, rest) := Number.spanDigits cs
    if digits.isEmpty then none else some (digits, rest)
  | _ => none

def wholePart? : List Char → Option (List Char × List Char)
  | '0' :: cs => some (['0'], cs)
  | cs =>
    let (digits, rest) := Number.spanDigits cs
    if digits.isEmpty then none else some (digits, rest)

/-- A number: whole without a fraction and an exponent, floating-point otherwise. The length of a
whole number is bounded. -/
def readNumber (cs : List Char) : Except Stop (Rest Value) := do
  let (negative, body) := match cs with
    | '-' :: cs => (true, cs)
    | cs => (false, cs)
  let (whole, rest) ← match wholePart? body with
    | some part => pure part
    | none => stop .expectedValue cs
  let fraction := fraction? rest
  let rest := (fraction.map (·.2)).getD rest
  let exponent := exponent? rest
  let rest := (exponent.map (·.2)).getD rest
  if fraction.isNone && exponent.isNone then
    if Number.longestInteger < whole.length then throw .overlongNumber
    let n : Nat := Number.positional whole
    return (.int (if negative then -n else n), rest)
  else
    let digits := (fraction.map (·.1)).getD []
    let power := (exponent.map (·.1)).getD 0
    return (.float (.ofNumeral (.ofParts negative whole digits power)), rest)

/-- The literals. All non-numbers that are read are one and the same. -/
def literals : List (String × Value) :=
  [("null", .null), ("true", .bool true), ("false", .bool false), ("NaN", .float (.nan 0)),
    ("Infinity", .float (.infinite false)), ("-Infinity", .float (.infinite true))]

def readLiteral? (cs : List Char) : Option (Value × List Char) :=
  (literals.find? fun l => l.1.toList.isPrefixOf cs).map fun l => (l.2, cs.drop l.1.length)

mutual

/-- A value. The number bounds the steps. -/
def readValue (point : Char → Nat) : Nat → List Char → Except Stop (Rest Value)
  | 0, cs => stop .expectedValue cs
  | steps + 1, cs =>
    match cs with
    | '"' :: rest => readText point rest
    | '[' :: rest =>
      match skip rest with
      | ']' :: rest => .ok (.list [], rest)
      | rest => do
        let (items, rest) ← readItems point steps rest
        return (.list items, rest)
    | '\x7b' :: rest =>
      match skip rest with
      | '\x7d' :: rest => .ok (.dict [], rest)
      | rest => do
        let (members, rest) ← readMembers point steps rest
        return ((OrderedMap.ofEntries members : Mapping).toValue, rest)
    | cs =>
      match readLiteral? cs with
      | some r => .ok r
      | none => readNumber cs

def readItems (point : Char → Nat) : Nat → List Char → Except Stop (Rest (List Value))
  | 0, cs => stop .expectedValue cs
  | steps + 1, cs => do
    let (item, rest) ← readValue point steps cs
    match skip rest with
    | ']' :: rest => return ([item], rest)
    | ',' :: rest =>
      let (items, rest) ← readItems point steps (skip rest)
      return (item :: items, rest)
    | rest => stop .expectedComma rest

def readMembers (point : Char → Nat) : Nat → List Char → Except Stop (Rest (List (Value × Value)))
  | 0, cs => stop .expectedValue cs
  | steps + 1, cs => do
    let (key, rest) ← match cs with
      | '"' :: rest => readText point rest
      | rest => stop .expectedName rest
    let rest ← match skip rest with
      | ':' :: rest => pure (skip rest)
      | rest => stop .expectedColon rest
    let (value, rest) ← readValue point steps rest
    let entry := (key, value)
    match skip rest with
    | '\x7d' :: rest => return ([entry], rest)
    | ',' :: rest =>
      let (members, rest) ← readMembers point steps (skip rest)
      return (entry :: members, rest)
    | rest => stop .expectedComma rest

end

/-- A document: one value between white space. Every step but the first of a list or an object
reads at least one character, so twice the length is a bound. -/
def readDocument (point : Char → Nat) (cs : List Char) : Except Stop Value := do
  let (v, rest) ← readValue point (2 * cs.length + 2) (skip cs)
  match skip rest with
  | [] => return v
  | rest => stop .extraData rest

def Stop.toError (document : List Char) : Stop → Error
  | fault problem left => .badJson (.at problem document (document.length - left))
  | overlongNumber => .badValue

def parseBy (point : Char → Nat) (cs : List Char) : Except Error Value :=
  (readDocument point cs).mapError (Stop.toError cs)

/-- The start of a block of characters, as long as that of the halves of surrogate pairs, none of
which is among code points. -/
def unusedBlock (ns : List Nat) : Nat :=
  (((List.range' 32 512).map (0x800 * ·)).find? fun block =>
    !ns.any fun n => block ≤ n && n < block + 0x800).getD 0x110000

/-- Reads a document of code points. Characters that it does not use take the places of the halves of
surrogate pairs in it, which count as these halves inside texts. -/
def parseDocument (ns : List Nat) : Except Error Value :=
  match Text.ofCodePoints? ns with
  | some s => parseBy Char.toNat s.toList
  | none =>
    let block := unusedBlock ns
    let letter (n : Nat) := Char.ofNat (if n.isValidChar then n else block + (n - 0xd800))
    let point (c : Char) :=
      if block ≤ c.toNat ∧ c.toNat < block + 0x800 then 0xd800 + (c.toNat - block) else c.toNat
    parseBy point (ns.map letter)

def refuseMark : Option Nat → Except Error Unit
  | some 0xfeff => throw (.badJson (.at .byteOrderMark [] 0))
  | _ => pure ()

def parse (cs : List Char) : Except Error Value := do
  refuseMark (cs.head?.map Char.toNat)
  parseBy Char.toNat cs

def parsePoints (ns : List Nat) : Except Error Value := do
  refuseMark ns.head?
  parseDocument ns

def parseBytes (bs : List UInt8) : Except Error Value :=
  match Text.documentPoints? bs with
  | none => throw .badEncoding
  | some ns => parseDocument ns

end RecordMapper.Json
