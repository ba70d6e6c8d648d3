import RecordMapper.Number.Extended
import RecordMapper.Number.Numeral

/-!
Binary floating-point numbers of 64 bits, kept as exact data: a sign, a whole significand below
`2 ^ 53` and a power of two. A rational number is read as the nearest of them, and of two nearest
ones as the one with the even significand.
-/
namespace RecordMapper.Number

inductive Binary64
  | finite (negative : Bool) (significand : Nat) (exponent : Int)
  | infinite (negative : Bool)
  /-- Non-numbers are told apart by a mark only. -/
  | nan (mark : Nat)
deriving DecidableEq, Repr, Inhabited

namespace Binary64

def precision : Nat := 53

def minExponent : Int := -1074

def maxExponent : Int := 971

def roundDiv (num den : Nat) : Nat :=
  let q := num / den
  let r := num % den
  if 2 * r < den then q else if den < 2 * r then q + 1 else q + q % 2

def inUnits (num den : Nat) (exponent : Int) : Nat :=
  if 0 ≤ exponent then roundDiv num (den * Nat.pow 2 exponent.toNat)
  else roundDiv (num * Nat.pow 2 (-exponent).toNat) den

def reachesPower (num den : Nat) (k : Int) : Bool :=
  if 0 ≤ k then den * Nat.pow 2 k.toNat ≤ num else den ≤ num * Nat.pow 2 (-k).toNat

def ofRatio (negative : Bool) (num den : Nat) : Binary64 :=
  if num = 0 then finite negative 0 minExponent
  else
    let estimate : Int := (num.log2 : Int) - den.log2
    let top := if reachesPower num den estimate then estimate else estimate - 1
    let e := max (top - 52) minExponent
    let m := inUnits num den e
    let (m, e) := if m = Nat.pow 2 precision then (Nat.pow 2 (precision - 1), e + 1) else (m, e)
    if maxExponent < e then infinite negative else finite negative m e

/-- The nearest number to a numeral. Powers of ten beyond the range are not expanded. -/
def ofNumeral (x : Numeral) : Binary64 :=
  let size := x.exponent + (digitsOf x.coefficient).length
  if x.coefficient = 0 then finite x.negative 0 minExponent
  else if 310 < size then infinite x.negative
  else if size < -325 then finite x.negative 0 minExponent
  else if 0 ≤ x.exponent then
    ofRatio x.negative (x.coefficient * Nat.pow 10 x.exponent.toNat) 1
  else ofRatio x.negative x.coefficient (Nat.pow 10 (-x.exponent).toNat)

/-- The place of a number on the extended line; both zeros have the same. -/
def toExtended : Binary64 → Extended
  | finite negative m e =>
    .finite (if 0 ≤ e then ⟨negative, m * Nat.pow 2 e.toNat, 0⟩
      else ⟨negative, m * Nat.pow 5 (-e).toNat, e⟩)
  | infinite negative => .infinite negative
  | nan _ => .nan

def truncate? : Binary64 → Option Int
  | finite negative m e =>
    let n : Nat := if 0 ≤ e then m * Nat.pow 2 e.toNat else m / Nat.pow 2 (-e).toNat
    some (if negative then -n else n)
  | _ => none

def isZero : Binary64 → Bool
  | finite _ m _ => m == 0
  | _ => false

def ofText? (s : String) (mark : Nat) : Option Binary64 :=
  match s with
  | "nan" => some (nan mark)
  | "inf" => some (infinite false)
  | "-inf" => some (infinite true)
  | s => (Numeral.ofChars? s.toList).map ofNumeral

end Binary64

end RecordMapper.Number
