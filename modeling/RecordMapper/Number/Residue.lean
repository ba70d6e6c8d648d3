import RecordMapper.Number.Extended

/-!
Residues of numbers modulo a prime that divides no power of ten, so that fractions have one as well:
a negative power of ten has the residue of a positive one. Equal numbers of all kinds have one
residue, whatever their coefficients and exponents.
-/
namespace RecordMapper.Number

def powMod (m b n : Nat) : Nat :=
  if n = 0 then 1 % m
  else
    let half := powMod m (b * b % m) (n / 2)
    if n % 2 = 0 then half else b * half % m
termination_by n
decreasing_by omega

theorem powMod_eq (m b n : Nat) : powMod m b n = Nat.pow b n % m := by
  simp only [Nat.pow_eq]
  fun_induction powMod m b n with
  | case1 => rfl
  | case2 b n _ half even ih =>
    have twice : n = 2 * (n / 2) := by omega
    rw [show half = _ from ih, ← Nat.pow_mod, ← Nat.pow_two, ← Nat.pow_mul, ← twice]
  | case3 b n _ half odd ih =>
    have twice : n = 2 * (n / 2) + 1 := by omega
    rw [show half = _ from ih, ← Nat.pow_mod, ← Nat.pow_two, ← Nat.pow_mul, Nat.mul_mod_mod,
      Nat.mul_comm, ← Nat.pow_succ, Nat.succ_eq_add_one, ← twice]

def modulus : Nat := Nat.pow 2 61 - 1

/-- The residue of a number without its sign. Powers of ten come back after one step less than the
modulus, as it is a prime. -/
def Numeral.residue (x : Numeral) : Nat :=
  x.coefficient * powMod modulus 10 (x.exponent % (modulus - 1 : Nat)).toNat % modulus

/-- The residue of a number with its sign, which is never minus one. Infinities have one of their
own. -/
def Extended.residue? : Extended → Option Int
  | finite x =>
    let n : Int := x.residue
    some (if !x.negative then n else if n = 1 then -2 else -n)
  | infinite negative => some (if negative then -314159 else 314159)
  | nan => none

end RecordMapper.Number
