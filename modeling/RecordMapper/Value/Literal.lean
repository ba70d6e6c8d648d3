import RecordMapper.Calendar
import RecordMapper.Error
import RecordMapper.Text.Blank
import RecordMapper.Text.Pieces

/-!
Values read from the form in which they are written down: byte strings as hexadecimal digits, dates
as year, month and day, identifiers as thirty-two hexadecimal digits.
-/
namespace RecordMapper.Value

def bytesOfHex : List Char → Except Error (List UInt8)
  | [] => pure []
  | a :: b :: rest =>
    match Text.hexValue? a, Text.hexValue? b with
    | some x, some y => do return UInt8.ofNat (16 * x + y) :: (← bytesOfHex rest)
    | _, _ => throw .badValue
  | [_] => throw .badValue

def dateOfText (s : String) : Except Error Value :=
  match Calendar.ofText? s with
  | some (year, month, day) => pure (date year month day)
  | none => throw .badValue

def uuidDigits (s : String) : List Char :=
  let bare := Text.substitute "uuid:" "" (Text.substitute "urn:" "" s)
  (Text.dropEnds (fun c => c == '\x7b' || c == '\x7d') bare.toList).filter (· != '-')

/-- Reads on hexadecimal digits, between which single underscores may stand. -/
def readHex? (n : Nat) : List Char → Option Nat
  | [] => none
  | [c] => (Text.hexValue? c).map (16 * n + ·)
  | c :: '_' :: cs | c :: cs => do readHex? (16 * n + (← Text.hexValue? c)) cs

def hexNumber? (cs : List Char) : Option Nat :=
  match (Number.splitSign ((Text.dropEnds Text.isSpace cs).map Number.plainDigit)).2 with
  | '0' :: 'x' :: '_' :: cs | '0' :: 'X' :: '_' :: cs | '0' :: 'x' :: cs | '0' :: 'X' :: cs | cs =>
    readHex? 0 cs

def uuidOfNumber (n : Nat) : String :=
  let digits := Text.hexDigits 32 n
  let group (start count : Nat) : String := String.ofList ((digits.drop start).take count)
  "-".intercalate [group 0 8, group 8 4, group 12 4, group 16 4, group 20 12]

def uuidOfText? (s : String) : Option String :=
  if (uuidDigits s).length = 32 then (hexNumber? (uuidDigits s)).map uuidOfNumber else none

end RecordMapper.Value
