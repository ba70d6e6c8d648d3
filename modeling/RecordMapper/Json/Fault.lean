/-!
What can be wrong with a JSON text, and where.
-/
namespace RecordMapper.Json

inductive Problem
  | expectedValue
  | extraData
  | unterminatedString
  | controlCharacter
  | badEscape
  | badUnicodeEscape
  | expectedName
  | expectedColon
  | expectedComma
  | byteOrderMark
deriving DecidableEq, Repr

def Problem.text : Problem → String
  | expectedValue => "Expecting value"
  | extraData => "Extra data"
  | unterminatedString => "Unterminated string starting at"
  | controlCharacter => "Invalid control character at"
  | badEscape => "Invalid \\escape"
  | badUnicodeEscape => "Invalid \\uXXXX escape"
  | expectedName => "Expecting property name enclosed in double quotes"
  | expectedColon => "Expecting ':' delimiter"
  | expectedComma => "Expecting ',' delimiter"
  | byteOrderMark => "Unexpected UTF-8 BOM (decode using utf-8-sig)"

/-- A problem with its place. Lines and columns count from one, offsets from zero. -/
structure Fault where
  problem : Problem
  line : Nat
  column : Nat
  offset : Nat
deriving DecidableEq, Repr

def Fault.at (problem : Problem) (text : List Char) (offset : Nat) : Fault :=
  let before := text.take offset
  { problem
    line := before.count '\n' + 1
    column := (before.reverse.takeWhile (· != '\n')).length + 1
    offset }

def Fault.message (f : Fault) : String :=
  f.problem.text ++ s!": line {f.line} column {f.column} (char {f.offset})"

end RecordMapper.Json
