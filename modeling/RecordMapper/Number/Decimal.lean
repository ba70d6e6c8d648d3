import RecordMapper.Number.Binary64
import RecordMapper.Number.Numeral

/-!
Decimal numbers with an exact coefficient and power of ten, so that `1.50` and `1.5` are two
numbers of the same value. Besides them there are infinities and marked non-numbers.
-/
namespace RecordMapper.Number

inductive Decimal
  | finite (numeral : Numeral)
  | infinite (negative : Bool)
  /-- A non-number may be signaling and may carry a diagnostic number, here as its digits. It is
  told from others of the same text by a mark. -/
  | nan (negative signaling : Bool) (payload : List Char) (mark : Nat)
deriving DecidableEq, Repr

namespace Decimal

def special? (negative : Bool) (mark : Nat) (cs : List Char) : Option Decimal :=
  let payload (cs : List Char) : Option (List Char) :=
    if cs.all Char.isDigit then some (cs.dropWhile (· == '0')) else none
  match cs.map Char.toLower with
  | ['i', 'n', 'f'] => some (infinite negative)
  | ['i', 'n', 'f', 'i', 'n', 'i', 't', 'y'] => some (infinite negative)
  | 'n' :: 'a' :: 'n' :: ds => (payload ds).map fun p => nan negative false p mark
  | 's' :: 'n' :: 'a' :: 'n' :: ds => (payload ds).map fun p => nan negative true p mark
  | _ => none

/-- Reads a decimal number between blanks, with digits of any script. Underscores count for nothing;
`mark` is for a non-number. -/
def ofText? (s : String) (mark : Nat) : Option Decimal :=
  let cs := ((Text.dropEnds Text.isBlank s.toList).filter (· != '_')).map plainDigit
  match Numeral.ofChars? cs with
  | some x => some (finite x)
  | none => let (negative, cs) := splitSign cs; special? negative mark cs

/-- Digits with a point among them, without digits after it when there are none. -/
def plainText (digits : List Char) (point : Int) : List Char :=
  if point ≤ 0 then '0' :: '.' :: (List.replicate (-point).toNat '0' ++ digits)
  else if (digits.length : Int) ≤ point then digits
  else digits.take point.toNat ++ '.' :: digits.drop point.toNat

/-- Scientific text: positional unless the exponent is positive or the number is below a
millionth, otherwise one digit before the point and an exponent. -/
def numeralText (x : Numeral) : List Char :=
  let digits := digitsOf x.coefficient
  let point := x.exponent + digits.length
  let sign := if x.negative then ['-'] else []
  let body :=
    if x.exponent ≤ 0 ∧ -6 < point then plainText digits point
    else
      let e := point - 1
      let mantissa := match digits with
        | d :: e :: ds => d :: '.' :: e :: ds
        | ds => ds
      mantissa ++ 'E' :: (if e < 0 then '-' else '+') :: digitsOf e.natAbs
  sign ++ body

def toText : Decimal → String
  | finite x => String.ofList (numeralText x)
  | infinite negative => if negative then "-Infinity" else "Infinity"
  | nan negative signaling payload _ =>
    (if negative then "-" else "") ++ (if signaling then "sNaN" else "NaN") ++ String.ofList payload

def toExtended : Decimal → Extended
  | finite x => .finite x
  | infinite negative => .infinite negative
  | nan _ _ _ _ => .nan

def isZero : Decimal → Bool
  | finite x => x.coefficient == 0
  | _ => false

def halved : Nat → Nat → Nat × Nat
  | 0, m => (m, 0)
  | k + 1, m => if m % 2 = 0 then halved k (m / 2) else (m, k + 1)

def ofBinary64 : Binary64 → Decimal
  | .finite negative 0 _ => finite ⟨negative, 0, 0⟩
  | .finite negative m e =>
    if 0 ≤ e then finite ⟨negative, m * Nat.pow 2 e.toNat, 0⟩
    else
      let (m, k) := halved (-e).toNat m
      finite ⟨negative, m * Nat.pow 5 k, -k⟩
  | .infinite negative => infinite negative
  | .nan mark => nan false false [] mark

end Decimal

end RecordMapper.Number
