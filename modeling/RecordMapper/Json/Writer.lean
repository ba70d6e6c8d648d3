import RecordMapper.Error
import RecordMapper.Text.Encoding

/-!
JSON text of values, in ASCII: items are separated by a comma and a space, keys from values by a
colon and a space, and every character outside printable ASCII is escaped as its UTF-16 units.
-/
namespace RecordMapper.Json

def units16 (n : Nat) : List Nat :=
  if n < 0x10000 then [n]
  else [0xd800 + (n - 0x10000) / 1024, 0xdc00 + (n - 0x10000) % 1024]

def escapedUnit (n : Nat) : List Char := '\\' :: 'u' :: Text.hexDigits 4 n

def writeChar (c : Char) : List Char :=
  if c = '"' then ['\\', '"']
  else if c = '\\' then ['\\', '\\']
  else if c = '\n' then ['\\', 'n']
  else if c = '\r' then ['\\', 'r']
  else if c = '\t' then ['\\', 't']
  else if c = '\x0c' then ['\\', 'f']
  else if c = '\x08' then ['\\', 'b']
  else if 0x20 ≤ c.toNat ∧ c.toNat ≤ 0x7e then [c]
  else (units16 c.toNat).flatMap escapedUnit

def writeText (cs : List Char) : List Char :=
  '"' :: cs.flatMap writeChar ++ ['"']

def writePoint (n : Nat) : List Char :=
  if n.isValidChar then writeChar (Char.ofNat n) else escapedUnit n

def writePoints (ns : List Nat) : List Char :=
  '"' :: ns.flatMap writePoint ++ ['"']

def writeFloat (x : Number.Binary64) : List Char :=
  match x with
  | .nan _ => "NaN".toList
  | .infinite negative => (if negative then "-Infinity" else "Infinity").toList
  | x => x.toText.toList

def writeInteger (n : Int) : Except Error (List Char) :=
  if Number.isOverlong n then throw .badValue else pure (toString n).toList

/-- A quoted key. Keys are texts, or numbers, truth values and `null` by their JSON text. -/
def writeKey : Value → Except Error (List Char)
  | .text s => pure (writeText s.toList)
  | .looseText ns => pure (writePoints ns)
  | .bool b => pure (writeText (if b then "true" else "false").toList)
  | .null => pure (writeText "null".toList)
  | .int n => (writeInteger n).map writeText
  | .float x => pure (writeText (writeFloat x))
  | _ => throw .typeMismatch

def separated : List (List Char) → List Char
  | [] => []
  | [part] => part
  | part :: parts => part ++ ',' :: ' ' :: separated parts

mutual

/-- The JSON text of a value, if it has one. Tuples are written as lists. -/
def write : Value → Except Error (List Char)
  | .null => pure "null".toList
  | .bool b => pure (if b then "true" else "false").toList
  | .int n => writeInteger n
  | .float x => pure (writeFloat x)
  | .text s => pure (writeText s.toList)
  | .looseText ns => pure (writePoints ns)
  | .list xs => do return '[' :: separated (← writeItems xs) ++ [']']
  | .tuple xs => do return '[' :: separated (← writeItems xs) ++ [']']
  | .dict es => do return '\x7b' :: separated (← writeMembers es) ++ ['\x7d']
  | _ => throw .typeMismatch
termination_by structural v => v

def writeItems : List Value → Except Error (List (List Char))
  | [] => pure []
  | x :: xs => do return (← write x) :: (← writeItems xs)
termination_by structural xs => xs

def writeMembers : List (Value × Value) → Except Error (List (List Char))
  | [] => pure []
  | (k, v) :: es => do
    let key ← writeKey k
    let value ← write v
    return (key ++ ':' :: ' ' :: value) :: (← writeMembers es)
termination_by structural es => es

end

def render (v : Value) : Except Error String := (write v).map String.ofList

end RecordMapper.Json
