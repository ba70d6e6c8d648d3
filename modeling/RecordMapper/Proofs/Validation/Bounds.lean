import RecordMapper.Proofs.Number.Place
import RecordMapper.Proofs.Validation.SinglePass
import RecordMapper.Proofs.Value.Mapping

/-!
Bounds of values. A value that is accepted lies between its bounds, wherever they stand among the rules, with one
exception: floating-point numbers that are no numbers have no place in the order, and no comparison with them
finds a bound violated.
-/
namespace RecordMapper

open Number

namespace Value

def place? : Value → Option Line
  | bool b => some (.at (if b then 1 else 0))
  | int n => some (.at n)
  | float x => x.place?
  | decimal x => x.place?
  | _ => none

/-- Is the value of a kind of numbers, but no number? -/
def isNan : Value → Bool
  | float (.nan _) | decimal (.nan _ _ _ _) => true
  | _ => false

/-- What bounds apply to: a number itself, or the length of a sized value. -/
inductive Measures : Value → Value → Prop
  | int {n : Int} : Measures (.int n) (.int n)
  | float {x : Binary64} : Measures (.float x) (.float x)
  | decimal {x : Decimal} : Measures (.decimal x) (.decimal x)
  | length {v : Value} {n : Nat} : v.length? = some n → Measures v (.int n)

/-- Both are numbers, and the first one is not above the second one. -/
def AtMost (v w : Value) : Prop :=
  ∃ p q, v.place? = some p ∧ w.place? = some q ∧ p ≤ q

/-- One of two floating-point numbers or integers is no number, so that neither is above the other. -/
def Unordered (v w : Value) : Prop :=
  (v.isNan ∨ w.isNan) ∧ ¬v.isDecimal ∧ ¬w.isDecimal

section

variable {v w m : Value}

theorem measure?_eq_some_iff : Rule.measure? v = some m ↔ v.Measures m := by
  constructor
  · intro h
    unfold Rule.measure? at h
    split at h
    · exact Option.some.inj h ▸ .int
    · exact Option.some.inj h ▸ .float
    · exact Option.some.inj h ▸ .decimal
    · cases sized : v.length? with
      | none =>
        rw [sized] at h
        cases h
      | some n =>
        rw [sized] at h
        exact Option.some.inj h ▸ .length sized
  · intro h
    cases h with
    | int | float | decimal => rfl
    | @length _ n sized =>
      cases v <;> first | cases sized; done | exact congrArg (Option.map fun n : Nat => Value.int n) sized

theorem Measures.isNumeric (h : v.Measures m) : m.number?.isSome := by
  cases h <;> rfl

theorem place?_of_number? {x : Extended} (h : v.number? = some x) : v.place? = x.place? := by
  cases v with
  | bool b =>
    obtain rfl := Option.some.inj h
    rw [Extended.place?, Numeral.toRat_ofInt]
    cases b <;> simp [place?]
  | int n =>
    obtain rfl := Option.some.inj h
    rw [Extended.place?, Numeral.toRat_ofInt]
    rfl
  | float y => exact Option.some.inj h ▸ y.place?_toExtended.symm
  | decimal y => exact Option.some.inj h ▸ y.place?_toExtended.symm
  | _ => cases h

theorem isNan_iff {x : Extended} (h : v.number? = some x) : v.isNan ↔ x = .nan := by
  cases v with
  | bool b | int n => simp [← Option.some.inj h, isNan]
  | float y => cases y <;> simp [← Option.some.inj h, isNan, Binary64.toExtended]
  | decimal y => cases y <;> simp [← Option.some.inj h, isNan, Decimal.toExtended]
  | _ => cases h

private theorem compare_comm (v w : Value) :
    v.compare (fun p q => q.lt p) w = w.compare (fun p q => p.lt q) v := by
  unfold compare
  cases v.number? <;> cases w.number? <;> simp only [Bool.or_comm]

theorem compare_lt_eq_false_iff (hv : v.number?.isSome) (hw : w.number?.isSome) :
    v.compare (fun p q => p.lt q) w = .ok false ↔ w.AtMost v ∨ w.Unordered v := by
  obtain ⟨x, hx⟩ := Option.isSome_iff_exists.1 hv
  obtain ⟨y, hy⟩ := Option.isSome_iff_exists.1 hw
  have compared : v.compare (fun p q => p.lt q) w =
      if (v.isDecimal || w.isDecimal) && (x == .nan || y == .nan) then .error .invalidComparison
      else .ok (x.lt y) := by
    rw [compare, hx, hy]
    rfl
  rw [compared, AtMost, Unordered, place?_of_number? hx, place?_of_number? hy, isNan_iff hx, isNan_iff hy]
  by_cases nan : y = .nan ∨ x = .nan
  · have noPlace : ¬∃ p q, y.place? = some p ∧ x.place? = some q ∧ p ≤ q := by
      rintro ⟨p, q, hp, hq, _⟩
      rcases nan with rfl | rfl
      · cases hp
      · cases hq
    have never : x.lt y = false := by
      rcases nan with rfl | rfl <;> simp
    have found : (x == .nan || y == .nan) = true := by simpa [or_comm] using nan
    rw [found, Bool.and_true, never, or_iff_right noPlace, and_iff_right nan]
    cases v.isDecimal <;> cases w.isDecimal <;> simp
  · rw [not_or] at nan
    obtain ⟨p, hp⟩ := Extended.exists_place? nan.1
    obtain ⟨q, hq⟩ := Extended.exists_place? nan.2
    have found : (x == .nan || y == .nan) = false := by simp [nan.1, nan.2]
    have order : x.lt y = false ↔ p ≤ q := by
      rw [← not_lt, ← Extended.lt_iff hq hp, Bool.not_eq_true]
    simp [found, order, hp, hq, nan.1, nan.2]

end

end Value

namespace Rule

variable {fns : Functions} {v m bound : Value}

theorem unless_found_eq_ok_iff {x : Except Error Bool} {e : Error} :
    (do if ← x then throw e : Except Error Unit) = .ok () ↔ x = .ok false := by
  cases x with
  | error e' => exact ⟨nofun, nofun⟩
  | ok found =>
    cases found with
    | true => exact ⟨nofun, nofun⟩
    | false => exact iff_of_true rfl rfl

private theorem check_min_eq_ok_iff (measured : v.Measures m) (numeric : bound.number?.isSome) :
    check fns v bound .min = .ok () ↔ bound.AtMost m ∨ bound.Unordered m := by
  rw [check, Value.measure?_eq_some_iff.2 measured]
  exact unless_found_eq_ok_iff.trans (Value.compare_lt_eq_false_iff measured.isNumeric numeric)

private theorem check_max_eq_ok_iff (measured : v.Measures m) (numeric : bound.number?.isSome) :
    check fns v bound .max = .ok () ↔ m.AtMost bound ∨ m.Unordered bound := by
  rw [check, Value.measure?_eq_some_iff.2 measured]
  dsimp only
  rw [Value.compare_comm]
  exact unless_found_eq_ok_iff.trans (Value.compare_lt_eq_false_iff numeric measured.isNumeric)

end Rule

namespace Validation

variable {fns : Functions} {v a b : Value} {rules : Mapping}

theorem check_of_validateValue (accepted : validateValue fns v rules.toValue = .ok ()) (rule : Rule)
    {criterion : Value} (stated : rules.get? (.text rule.name) = some criterion) :
    rule.check fns v criterion = .ok () := by
  have entries : checkEntries fns v rules.entries = .ok () := by
    unfold validateValue at accepted
    split at accepted
    · cases accepted
    · exact accepted
  have kept := (checkEntries_eq_ok fns).1 entries _ ((OrderedMap.get?_eq_some_iff rfl).1 stated)
  rwa [checkEntry_of_name fns rfl] at kept

/-- A value that is accepted under two numeric bounds has no measure, or its measure lies between them, unless
one of the compared numbers is a floating-point number without a place in the order. -/
theorem bounds_kept (low : rules.get? (.text "min") = some a) (high : rules.get? (.text "max") = some b)
    (lowNumeric : a.number?.isSome) (highNumeric : b.number?.isSome)
    (accepted : validateValue fns v rules.toValue = .ok ()) :
    (∀ m, ¬v.Measures m) ∨
      ∃ m, v.Measures m ∧ (a.AtMost m ∨ a.Unordered m) ∧ (m.AtMost b ∨ m.Unordered b) := by
  by_cases measured : ∃ m, v.Measures m
  · obtain ⟨m, measured⟩ := measured
    have above := check_of_validateValue accepted .min low
    have below := check_of_validateValue accepted .max high
    exact .inr ⟨m, measured, (Rule.check_min_eq_ok_iff measured lowNumeric).1 above,
      (Rule.check_max_eq_ok_iff measured highNumeric).1 below⟩
  · exact .inl (not_exists.1 measured)

/-- Two and a half is between one and a half and ten, among other rules. -/
theorem bounds_kept_decimal :
    let fns : Functions := fun _ v => .ok v
    let v : Value := .decimal (.finite ⟨false, 25, -1⟩)
    let a : Value := .float (.finite false 3 (-1))
    let rules : Mapping := .ofFields [("max", .int 10), ("type", .text "number"), ("min", a), ("unit", .text "m")]
    rules.get? (.text "min") = some a ∧ rules.get? (.text "max") = some (.int 10) ∧
      a.number?.isSome ∧ (Value.int 10).number?.isSome ∧ validateValue fns v rules.toValue = .ok () ∧
      a.AtMost v ∧ v.AtMost (.int 10) := by
  intro fns v a rules
  have accepted : validateValue fns v rules.toValue = .ok () := rfl
  have decimal {w : Value} (h : w.Unordered v ∨ v.Unordered w) : False := by
    rcases h with h | h
    · exact h.2.2 rfl
    · exact h.2.1 rfl
  refine ⟨rfl, rfl, rfl, rfl, accepted, ?_⟩
  rcases bounds_kept (a := a) (b := .int 10) rfl rfl rfl rfl accepted with none | ⟨m, measured, above, below⟩
  · exact absurd .decimal (none v)
  · obtain rfl : v = m := Option.some.inj (Value.measure?_eq_some_iff.2 measured)
    exact ⟨above.resolve_right fun h => decimal (.inl h), below.resolve_right fun h => decimal (.inr h)⟩

/-- A floating-point number that is no number is accepted under any bounds, although it is not between them. -/
theorem nan_within_bounds :
    let nan : Value := .float (.nan 0)
    let rules : Mapping := .ofFields [("min", .int 0), ("max", .int 10)]
    validateValue (fun _ v => .ok v) nan rules.toValue = .ok () ∧ nan.Measures nan ∧
      ¬(Value.int 0).AtMost nan ∧ ¬nan.AtMost (.int 10) := by
  intro nan rules
  refine ⟨rfl, .float, ?_, ?_⟩
  · rintro ⟨_, _, _, none, _⟩
    cases none
  · rintro ⟨_, _, none, _⟩
    cases none

end Validation

end RecordMapper
