import RecordMapper.Text.DecimalDigit
import RecordMapper.Text.Encoding
import RecordMapper.Text.Printable

/-!
Quoted display of texts and of byte strings. The quote is `'`, unless the content holds a `'` and
no `"`. What cannot be shown is written as an escape of two, four or eight hexadecimal digits.
-/
namespace RecordMapper.Text

def quoteFor (hasSingle hasDouble : Bool) : Char :=
  if hasSingle && !hasDouble then '"' else '\''

def shortEscape? (quote c : Char) : Option (List Char) :=
  if c = '\\' ∨ c = quote then some ['\\', c]
  else if c = '\t' then some ['\\', 't']
  else if c = '\n' then some ['\\', 'n']
  else if c = '\r' then some ['\\', 'r']
  else none

def quotedChar (quote c : Char) : List Char :=
  (shortEscape? quote c).getD <|
    let n := c.toNat
    if isPrintable c then [c]
    else if n < 0x100 then '\\' :: 'x' :: hexDigits 2 n
    else if n < 0x10000 then '\\' :: 'u' :: hexDigits 4 n
    else '\\' :: 'U' :: hexDigits 8 n

def quoted (s : String) : String :=
  let cs := s.toList
  let quote := quoteFor (cs.contains '\'') (cs.contains '"')
  String.ofList (quote :: cs.flatMap (quotedChar quote) ++ [quote])

/-- One code point between quotes; half of a surrogate pair is never shown as itself. -/
def quotedPoint (quote : Char) (n : Nat) : List Char :=
  if n.isValidChar then quotedChar quote (Char.ofNat n) else '\\' :: 'u' :: hexDigits 4 n

def quotedPoints (ns : List Nat) : String :=
  let quote := quoteFor (ns.contains '\''.toNat) (ns.contains '"'.toNat)
  String.ofList (quote :: ns.flatMap (quotedPoint quote) ++ [quote])

def quotedByte (quote : Char) (b : UInt8) : List Char :=
  let c := Char.ofNat b.toNat
  (shortEscape? quote c).getD <|
    if 0x20 ≤ b ∧ b < 0x7f then [c] else '\\' :: 'x' :: hexDigits 2 b.toNat

def quotedBytes (bs : List UInt8) : String :=
  let quote := quoteFor (bs.contains 0x27) (bs.contains 0x22)
  String.ofList ('b' :: quote :: bs.flatMap (quotedByte quote) ++ [quote])

end RecordMapper.Text
