import RecordMapper.Text.Blank
import RecordMapper.Text.DecimalDigit

/-!
Decimal numerals: a sign, a coefficient and a power of ten. Digits are read into their positional
value; whole numbers may group digits by single underscores and may use digits of any script.
-/
namespace RecordMapper.Number

/-- The number `± coefficient · 10 ^ exponent`; zero keeps its sign and its exponent. -/
structure Numeral where
  negative : Bool
  coefficient : Nat
  exponent : Int
deriving DecidableEq, Repr

def positional (digits : List Char) : Nat :=
  digits.foldl (fun n c => 10 * n + (Text.asciiDigit? c).getD 0) 0

def digitsOf (n : Nat) : List Char :=
  Nat.toDigits 10 n

def Numeral.ofParts (negative : Bool) (whole fraction : List Char) (exponent : Int) : Numeral :=
  ⟨negative, positional (whole ++ fraction), exponent - fraction.length⟩

def splitSign : List Char → Bool × List Char
  | '-' :: cs => (true, cs)
  | '+' :: cs => (false, cs)
  | cs => (false, cs)

def spanDigits (cs : List Char) : List Char × List Char :=
  cs.span Char.isDigit

def signedDigits? (cs : List Char) : Option Int :=
  let (negative, cs) := splitSign cs
  let (digits, rest) := spanDigits cs
  if digits.isEmpty || !rest.isEmpty then none
  else some (if negative then -(positional digits : Int) else positional digits)

def Numeral.ofChars? (cs : List Char) : Option Numeral := do
  let (negative, cs) := splitSign cs
  let (whole, cs) := spanDigits cs
  let (fraction, cs) := match cs with
    | '.' :: cs => spanDigits cs
    | cs => ([], cs)
  if whole.isEmpty && fraction.isEmpty then none
  match cs with
  | [] => some (ofParts negative whole fraction 0)
  | e :: cs =>
    if e = 'e' ∨ e = 'E' then
      return ofParts negative whole fraction (← signedDigits? cs)
    else none

def Numeral.toRat (x : Numeral) : Rat :=
  let q : Rat := x.coefficient * (10 : Rat) ^ x.exponent
  if x.negative then -q else q

/-- `m · 10 ^ k ≤ n`. A power that is greater than `n` by its size alone is not written out. -/
def scaledLe (m k n : Nat) : Bool :=
  m == 0 || (k ≤ n.log2 && m * Nat.pow 10 k ≤ n)

theorem scaledLe_iff {m k n : Nat} : scaledLe m k n = true ↔ m * Nat.pow 10 k ≤ n := by
  rcases Nat.eq_zero_or_pos m with rfl | hm
  · simp [scaledLe]
  · have size (h : m * Nat.pow 10 k ≤ n) : k ≤ n.log2 := by
      have ten : Nat.pow 10 k ≤ n := Nat.le_trans (Nat.le_mul_of_pos_left _ hm) h
      have two : Nat.pow 2 k ≤ Nat.pow 10 k := Nat.pow_le_pow_left (by decide) k
      have pos : 0 < Nat.pow 2 k := Nat.pow_pos (by decide)
      exact (Nat.le_log2 (by omega)).2 (Nat.le_trans two ten)
    have ne : (m == 0) = false := by simpa using Nat.ne_of_gt hm
    simp only [scaledLe, ne, Bool.false_or, Bool.and_eq_true, decide_eq_true_eq]
    exact ⟨And.right, fun h => ⟨size h, h⟩⟩

def Numeral.truncate (x : Numeral) : Int :=
  let k := (-x.exponent).toNat
  let n : Nat :=
    if x.coefficient = 0 then 0
    else if 0 ≤ x.exponent then x.coefficient * Nat.pow 10 x.exponent.toNat
    else if scaledLe 1 k x.coefficient then x.coefficient / Nat.pow 10 k
    else 0
  if x.negative then -n else n

def Numeral.integer? (x : Numeral) : Option Int :=
  let k := (-x.exponent).toNat
  if x.coefficient = 0 ∨ 0 ≤ x.exponent then some x.truncate
  else if scaledLe 1 k x.coefficient && x.coefficient % Nat.pow 10 k == 0 then some x.truncate
  else none

def ungroup? : List Char → Option (List Char)
  | [] => none
  | [c] => if c.isDigit then some [c] else none
  | c :: '_' :: cs => if c.isDigit then (ungroup? cs).map (c :: ·) else none
  | c :: cs => if c.isDigit then (ungroup? cs).map (c :: ·) else none

def longestInteger : Nat := 4300

def isOverlong (n : Int) : Bool := Nat.pow 10 longestInteger ≤ n.natAbs

def groupedInteger? (cs : List Char) : Option Int := do
  let (negative, cs) := splitSign cs
  let digits ← ungroup? cs
  if longestInteger < digits.length then none
  return if negative then -(positional digits : Int) else positional digits

def plainDigit (c : Char) : Char :=
  match Text.digitValue? c with
  | some n => Char.ofNat (0x30 + n)
  | none => c

def integerOfText? (s : String) : Option Int :=
  groupedInteger? ((Text.dropEnds Text.isSpace s.toList).map plainDigit)

def integerOfBytes? (bs : List UInt8) : Option Int :=
  if bs.all (· < 0x80) then
    groupedInteger? (Text.dropEnds Text.isSpace (bs.map fun b => Char.ofNat b.toNat))
  else none

end RecordMapper.Number
