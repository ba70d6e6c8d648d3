import RecordMapper.Number.Binary64

/-!
Decimal text of floating-point numbers: the fewest digits that read back as the same number, and of
the shortest candidates the nearest. Digits are tried in exact whole-number arithmetic.
-/
namespace RecordMapper.Number

/-- Positive numbers in quarters of the unit of a significand, with the ends of the interval of
numbers that round to them. -/
structure RoundingInterval where
  low : Nat
  value : Nat
  high : Nat
  /-- The ends belong to the interval. -/
  closed : Bool
  /-- The power of two of one quarter. -/
  unit : Int

/-- The interval of a positive number. Below a power of two the neighbours are half as far. -/
def RoundingInterval.of (significand : Nat) (exponent : Int) : RoundingInterval :=
  let narrow := significand == Nat.pow 2 52 && Binary64.minExponent < exponent
  { low := 4 * significand - (if narrow then 1 else 2)
    value := 4 * significand
    high := 4 * significand + 2
    closed := significand % 2 == 0
    unit := exponent - 2 }

/-- `q · 10 ^ scale` and the interval's numbers over one denominator, as multiples of a common
unit: the pair of factors for the interval and for the grid. -/
def RoundingInterval.factors (unit scale : Int) : Nat × Nat :=
  let two (k : Int) : Nat := Nat.pow 2 k.toNat
  let ten (k : Int) : Nat := Nat.pow 10 k.toNat
  (two unit * ten (-scale), two (-unit) * ten scale)

def RoundingInterval.contains (i : RoundingInterval) (scale : Int) (d : Nat) : Bool :=
  let (f, g) := factors i.unit scale
  let x := d * g
  if i.closed then i.low * f ≤ x && x ≤ i.high * f else i.low * f < x && x < i.high * f

/-- The grid point of one step size that reads back, the nearer of the two neighbours if both do,
and the even one of two at the same distance. -/
def RoundingInterval.onGrid? (i : RoundingInterval) (scale : Int) : Option Nat :=
  let (f, g) := factors i.unit scale
  let below := i.value * f / g
  let rest := i.value * f % g
  match i.contains scale below, i.contains scale (below + 1) with
  | true, true =>
    some (if 2 * rest < g || (2 * rest == g && below % 2 == 0) then below else below + 1)
  | true, false => some below
  | false, true => some (below + 1)
  | false, false => none

def RoundingInterval.decimalPoint (i : RoundingInterval) : Int :=
  let num := i.value * Nat.pow 2 i.unit.toNat
  let den := Nat.pow 2 (-i.unit).toNat
  let guess : Int := (digitsOf num).length - (digitsOf den).length
  let reaches :=
    if 0 ≤ guess then den * Nat.pow 10 guess.toNat ≤ num
    else den ≤ num * Nat.pow 10 (-guess).toNat
  if reaches then guess + 1 else guess

def RoundingInterval.search (i : RoundingInterval) (point : Int) : List Nat → Nat × Int
  | [] => (0, 0)
  | count :: counts =>
    match i.onGrid? (point - count) with
    | some d => (d, point - count)
    | none => search i point counts

def dropZeros : Nat → Nat → Int → Nat × Int
  | 0, d, k => (d, k)
  | fuel + 1, d, k => if d ≠ 0 ∧ d % 10 = 0 then dropZeros fuel (d / 10) (k + 1) else (d, k)

def shortest (significand : Nat) (exponent : Int) : Nat × Int :=
  let i := RoundingInterval.of significand exponent
  let (d, k) := i.search i.decimalPoint ((List.range 17).map (· + 1))
  dropZeros 20 d k

/-- Where positional notation ends and how exponents are written. -/
structure FloatLayout where
  /-- The point is written among the digits while its place is above this one … -/
  lowestPoint : Int
  /-- … and not above this one. -/
  highestPoint : Int
  /-- Exponents have at least this many digits. -/
  exponentWidth : Nat

/-- Numbers from `10 ^ -4` up to `10 ^ 16` are written positionally, others as `1e+16`. -/
def FloatLayout.standard : FloatLayout := ⟨-4, 16, 2⟩

def padLeft (width : Nat) (cs : List Char) : List Char :=
  List.replicate (width - cs.length) '0' ++ cs

def signedExponent (width : Nat) (e : Int) : List Char :=
  (if e < 0 then '-' else '+') :: padLeft width (digitsOf e.natAbs)

def positionalText (digits : List Char) (point : Int) : List Char :=
  if point ≤ 0 then '0' :: '.' :: (List.replicate (-point).toNat '0' ++ digits)
  else
    let n := point.toNat
    if digits.length ≤ n then digits ++ List.replicate (n - digits.length) '0' ++ ['.', '0']
    else digits.take n ++ '.' :: digits.drop n

def exponentText (layout : FloatLayout) (digits : List Char) (point : Int) : List Char :=
  let mantissa := match digits with
    | [] => []
    | [d] => [d]
    | d :: ds => d :: '.' :: ds
  mantissa ++ 'e' :: signedExponent layout.exponentWidth (point - 1)

def FloatLayout.render (layout : FloatLayout) (negative : Bool) (significand : Nat)
    (exponent : Int) : String :=
  let sign := if negative then ['-'] else []
  if significand = 0 then String.ofList (sign ++ ['0', '.', '0'])
  else
    let (d, k) := shortest significand exponent
    let digits := digitsOf d
    let point := k + digits.length
    let body :=
      if layout.lowestPoint < point ∧ point ≤ layout.highestPoint then positionalText digits point
      else exponentText layout digits point
    String.ofList (sign ++ body)

def Binary64.toText : Binary64 → String
  | finite negative m e => FloatLayout.standard.render negative m e
  | infinite negative => if negative then "-inf" else "inf"
  | nan _ => "nan"

end RecordMapper.Number
