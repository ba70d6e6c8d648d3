import RecordMapper.Text.Encoding

/-!
Percent encoding of text for a place inside a URL. Letters, digits and `_`, `.`, `-`, `~` stand for
themselves; every other character is written as its UTF-8 bytes, each as `%` and two hexadecimal
digits in upper case.
-/
namespace RecordMapper.Text

def isUnreserved (c : Char) : Bool :=
  c.isAlphanum || c == '_' || c == '.' || c == '-' || c == '~'

def upperHexDigit (n : Nat) : Char :=
  if n < 10 then Char.ofNat (0x30 + n) else Char.ofNat (0x37 + n)

def percentByte (b : UInt8) : List Char :=
  ['%', upperHexDigit (b.toNat / 16), upperHexDigit (b.toNat % 16)]

def percentChar (c : Char) : List Char :=
  if isUnreserved c then [c] else (String.utf8EncodeChar c).flatMap percentByte

def percentEncode (s : String) : String :=
  String.ofList (s.toList.flatMap percentChar)

theorem percentEncode_toList (s : String) :
    (percentEncode s).toList = s.toList.flatMap percentChar := by
  simp [percentEncode]

end RecordMapper.Text
