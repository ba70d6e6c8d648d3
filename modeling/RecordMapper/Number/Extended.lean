import RecordMapper.Number.Order

/-!
The extended number line: every exact number, two infinities and an element without a
place in the order. Numbers of all kinds are compared there, so no comparison ever rounds.
-/
namespace RecordMapper.Number

/-- An exact number, an infinity, or no number at all. -/
inductive Extended
  | finite (value : Numeral)
  | infinite (negative : Bool)
  | nan
deriving DecidableEq, Repr

namespace Extended

/-- Strict order; nothing is below or above `nan`. -/
def lt : Extended → Extended → Bool
  | finite p, finite q => p.lt q
  | finite _, infinite negative => !negative
  | infinite negative, finite _ => negative
  | infinite negative, infinite negative' => negative && !negative'
  | _, _ => false

def same : Extended → Extended → Bool
  | finite p, finite q => p.same q
  | infinite negative, infinite negative' => negative == negative'
  | _, _ => false

/-- Order with equality; `nan` is outside. -/
def le (x y : Extended) : Bool :=
  x.lt y || x.same y

@[simp] theorem lt_finite (p q : Numeral) : lt (finite p) (finite q) = p.lt q := rfl
@[simp] theorem same_finite (p q : Numeral) : same (finite p) (finite q) = p.same q := rfl
@[simp] theorem nan_lt (x : Extended) : lt nan x = false := by cases x <;> rfl
@[simp] theorem lt_nan (x : Extended) : lt x nan = false := by cases x <;> rfl
@[simp] theorem nan_same (x : Extended) : same nan x = false := by cases x <;> rfl
@[simp] theorem same_nan (x : Extended) : same x nan = false := by cases x <;> rfl

end Extended

end RecordMapper.Number
