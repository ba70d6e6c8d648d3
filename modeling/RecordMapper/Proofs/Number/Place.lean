import Mathlib.Algebra.Order.Field.Power
import Mathlib.Algebra.Order.Ring.Rat
import Mathlib.Tactic.Linarith
import Mathlib.Tactic.Positivity
import RecordMapper.Number.Binary64
import RecordMapper.Number.Decimal

/-!
Numbers of all kinds on one line: the rational numbers with an infinity at either end. Numerals are compared
without writing out their powers of ten, and this is the order of their places on the line.
-/
namespace RecordMapper.Number

/-- The rational numbers between two infinities. -/
abbrev Line := WithBot (WithTop ℚ)

namespace Numeral

def size (x : Numeral) : ℚ := x.coefficient * 10 ^ x.exponent

variable {x y : Numeral}

theorem toRat_eq (x : Numeral) : x.toRat = if x.negative then -x.size else x.size := rfl

theorem size_nonneg (x : Numeral) : 0 ≤ x.size := by
  unfold size
  positivity

theorem size_pos_iff : 0 < x.size ↔ x.coefficient ≠ 0 := by
  unfold size
  rw [mul_pos_iff_of_pos_right (by positivity), Nat.cast_pos, Nat.pos_iff_ne_zero]

theorem size_eq_of_le {e : Int} (h : e ≤ x.exponent) :
    x.size = ↑(x.coefficient * Nat.pow 10 (x.exponent - e).toNat) * (10 : ℚ) ^ e := by
  have whole : ((x.exponent - e).toNat : Int) + e = x.exponent := by omega
  rw [size, ← whole, zpow_add₀ (by norm_num), zpow_natCast, Nat.pow_eq]
  push_cast
  rw [mul_assoc, whole]

theorem size_lt_iff {e : Int} (hx : e ≤ x.exponent) (hy : e ≤ y.exponent) : x.size < y.size ↔
    x.coefficient * Nat.pow 10 (x.exponent - e).toNat < y.coefficient * Nat.pow 10 (y.exponent - e).toNat := by
  rw [size_eq_of_le hx, size_eq_of_le hy, mul_lt_mul_iff_left₀ (by positivity), Nat.cast_lt]

theorem nearer_iff : x.nearer y ↔ x.size < y.size := by
  unfold nearer
  split
  · next h =>
    rw [size_lt_iff (le_refl _) h, Bool.not_eq_true', ← Bool.not_eq_true, scaledLe_iff, not_le]
    simp
  · next h =>
    rw [size_lt_iff (le_of_not_ge h) (le_refl _), Bool.and_eq_true, bne_iff_ne, scaledLe_iff]
    simp
    omega

theorem isBelowZero_iff : x.isBelowZero ↔ x.toRat < 0 := by
  rw [isBelowZero, Bool.and_eq_true, bne_iff_ne, ← size_pos_iff, toRat_eq]
  cases x.negative with
  | false => simp [x.size_nonneg]
  | true => simp

theorem toRat_of_isBelowZero (h : x.isBelowZero) : x.toRat = -x.size := by
  rw [toRat_eq, if_pos (Bool.and_eq_true_iff.1 h).1]

theorem toRat_of_not_isBelowZero (h : ¬x.isBelowZero) : x.toRat = x.size := by
  rw [isBelowZero_iff, toRat_eq] at h
  rw [toRat_eq]
  split at h
  · next negative =>
    have zero : x.size = 0 := le_antisymm (by linarith) x.size_nonneg
    rw [if_pos negative, zero, neg_zero]
  · next positive => rw [if_neg positive]

theorem lt_iff : x.lt y ↔ x.toRat < y.toRat := by
  unfold lt
  cases hx : x.isBelowZero with
  | true =>
    have left := toRat_of_isBelowZero hx
    cases hy : y.isBelowZero with
    | true => simp [nearer_iff, left, toRat_of_isBelowZero hy]
    | false =>
      have below := isBelowZero_iff.1 hx
      have above : 0 ≤ y.toRat := not_lt.1 (mt isBelowZero_iff.2 (by simp [hy]))
      simpa using lt_of_lt_of_le below above
  | false =>
    have left := toRat_of_not_isBelowZero (x := x) (by simp [hx])
    cases hy : y.isBelowZero with
    | true =>
      have below := isBelowZero_iff.1 hy
      have above : 0 ≤ x.toRat := not_lt.1 (mt isBelowZero_iff.2 (by simp [hx]))
      simpa using (lt_of_lt_of_le below above).le
    | false => simp [nearer_iff, left, toRat_of_not_isBelowZero (x := y) (by simp [hy])]

theorem toRat_ofInt (n : Int) : (ofInt n).toRat = n := by
  have size : (ofInt n).size = |(n : ℚ)| := by
    rw [Numeral.size, ofInt, zpow_zero, mul_one, Nat.cast_natAbs, Int.cast_abs]
  rw [toRat_eq, size]
  by_cases below : n < 0
  · have below' : (n : ℚ) < 0 := by exact_mod_cast below
    simp [ofInt, below, abs_of_neg below']
  · have above : (0 : ℚ) ≤ n := by exact_mod_cast not_lt.1 below
    simp [ofInt, below, abs_of_nonneg above]

end Numeral

def Line.endOf (negative : Bool) : Line := if negative then ⊥ else ((⊤ : WithTop ℚ) : Line)

def Line.at (q : ℚ) : Line := ((q : WithTop ℚ) : Line)

def Extended.place? : Extended → Option Line
  | finite x => some (.at x.toRat)
  | infinite negative => some (.endOf negative)
  | nan => none

theorem Extended.exists_place? {x : Extended} (h : x ≠ .nan) : ∃ p, x.place? = some p := by
  cases x with
  | nan => exact absurd rfl h
  | finite | infinite => exact ⟨_, rfl⟩

theorem Line.at_lt_at {p q : ℚ} : Line.at p < Line.at q ↔ p < q := by
  simp [Line.at]

theorem Line.at_lt_endOf {q : ℚ} {negative : Bool} : Line.at q < .endOf negative ↔ negative = false := by
  cases negative with
  | false => exact iff_of_true (WithBot.coe_lt_coe.2 (WithTop.coe_lt_top q)) rfl
  | true => simp [Line.endOf]

theorem Line.endOf_lt_at {q : ℚ} {negative : Bool} : Line.endOf negative < .at q ↔ negative = true := by
  cases negative <;> simp [Line.at, Line.endOf]

theorem Extended.lt_iff {x y : Extended} {p q : Line} (hx : x.place? = some p) (hy : y.place? = some q) :
    x.lt y ↔ p < q := by
  cases x with
  | nan => cases hx
  | finite x =>
    obtain rfl := Option.some.inj hx
    cases y with
    | nan => cases hy
    | finite y =>
      obtain rfl := Option.some.inj hy
      rw [lt_finite, Numeral.lt_iff, Line.at_lt_at]
    | infinite negative =>
      obtain rfl := Option.some.inj hy
      simp [lt, Line.at_lt_endOf]
  | infinite negative =>
    obtain rfl := Option.some.inj hx
    cases y with
    | nan => cases hy
    | finite y =>
      obtain rfl := Option.some.inj hy
      simp [lt, Line.endOf_lt_at]
    | infinite negative' =>
      obtain rfl := Option.some.inj hy
      cases negative <;> cases negative' <;> simp [lt, Line.endOf]

namespace Binary64

def place? : Binary64 → Option Line
  | finite negative significand exponent =>
    let q : ℚ := significand * 2 ^ exponent
    some (.at (if negative then -q else q))
  | infinite negative => some (.endOf negative)
  | nan _ => none

theorem place?_toExtended (x : Binary64) : x.toExtended.place? = x.place? := by
  cases x with
  | infinite negative => rfl
  | nan mark => rfl
  | finite negative m e =>
    have size : (if 0 ≤ e then (⟨negative, m * Nat.pow 2 e.toNat, 0⟩ : Numeral)
        else ⟨negative, m * Nat.pow 5 (-e).toNat, e⟩).size = (m : ℚ) * 2 ^ e := by
      split
      · next whole =>
        rw [Numeral.size, zpow_zero, mul_one, Nat.pow_eq]
        push_cast
        rw [← zpow_natCast, Int.toNat_of_nonneg whole]
      · next fraction =>
        have ten : (10 : ℚ) ^ e = 2 ^ e * 5 ^ e := by rw [← mul_zpow]; norm_num
        rw [Numeral.size, Nat.pow_eq]
        push_cast
        rw [← zpow_natCast, Int.toNat_of_nonneg (by omega), ten, zpow_neg, mul_assoc, mul_comm (2 ^ e),
          inv_mul_cancel_left₀ (by positivity)]
    have sign : (if 0 ≤ e then (⟨negative, m * Nat.pow 2 e.toNat, 0⟩ : Numeral)
        else ⟨negative, m * Nat.pow 5 (-e).toNat, e⟩).negative = negative := by
      split <;> rfl
    rw [toExtended, Extended.place?, Numeral.toRat_eq, size, sign]
    rfl

end Binary64

def Decimal.place? : Decimal → Option Line
  | finite x => some (.at x.toRat)
  | infinite negative => some (.endOf negative)
  | nan _ _ _ _ => none

theorem Decimal.place?_toExtended (x : Decimal) : x.toExtended.place? = x.place? := by
  cases x <;> rfl

end RecordMapper.Number
