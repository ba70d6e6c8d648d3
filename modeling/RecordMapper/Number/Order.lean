import RecordMapper.Number.Numeral

/-!
The order of numerals. Numbers are compared exactly, but a power of ten is written out only where
the sizes of the coefficients leave the question open. On whole numbers it is their usual order
(`lt_ofInt`, `same_ofInt`).
-/
namespace RecordMapper.Number.Numeral

def ofInt (n : Int) : Numeral := ⟨decide (n < 0), n.natAbs, 0⟩

def nearer (x y : Numeral) : Bool :=
  if x.exponent ≤ y.exponent then
    !scaledLe y.coefficient (y.exponent - x.exponent).toNat x.coefficient
  else
    y.coefficient != 0 &&
      scaledLe x.coefficient (x.exponent - y.exponent).toNat (y.coefficient - 1)

def isBelowZero (x : Numeral) : Bool := x.negative && x.coefficient != 0

def lt (x y : Numeral) : Bool :=
  match x.isBelowZero, y.isBelowZero with
  | true, false => true
  | false, true => false
  | false, false => x.nearer y
  | true, true => y.nearer x

def same (x y : Numeral) : Bool := !x.lt y && !y.lt x

theorem nearer_ofInt (m n : Int) : nearer (ofInt m) (ofInt n) = decide (m.natAbs < n.natAbs) := by
  rw [Bool.eq_iff_iff]
  simp [nearer, ofInt, scaledLe]
  omega

theorem isBelowZero_ofInt (n : Int) : isBelowZero (ofInt n) = decide (n < 0) := by
  rw [Bool.eq_iff_iff]
  simp [isBelowZero, ofInt]
  omega

@[simp] theorem lt_ofInt (m n : Int) : lt (ofInt m) (ofInt n) = decide (m < n) := by
  rw [lt, isBelowZero_ofInt, isBelowZero_ofInt, nearer_ofInt, nearer_ofInt, Bool.eq_iff_iff]
  by_cases hm : m < 0 <;> by_cases hn : n < 0 <;> simp [hm, hn] <;> omega

@[simp] theorem same_ofInt (m n : Int) : same (ofInt m) (ofInt n) = (m == n) := by
  rw [same, lt_ofInt, lt_ofInt, Bool.eq_iff_iff]
  simp
  omega

end RecordMapper.Number.Numeral
