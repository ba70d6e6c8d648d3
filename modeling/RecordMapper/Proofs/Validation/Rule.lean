import RecordMapper.Proofs.Value.Failure
import RecordMapper.Validation.Check

/-!
What rules report. A rule reports a breach of itself by the value it is asked about, if it reports a
violation at all. So no rule reports an undefined value: only the check that comes before all rules
does, and a value that is there fails in another way, if it fails.
-/
namespace RecordMapper

def Error.isUndefined : Error → Bool
  | violation ⟨.undefined, _, _⟩ => true
  | _ => false

/-- Whatever the failure is, it reports no undefined value. -/
def Definite {α : Type} (x : Except Error α) : Prop := ∀ e, x = .error e → e.isUndefined = false

/-- The rule that is broken. Undefined values break no rule, and a general failure names none. -/
def Breach.rule? {ε : Type} : Breach ε → Option Rule
  | missing => some .required
  | unexpectedType _ => some .type
  | tooBig => some .max
  | tooSmall => some .min
  | notEnumerated _ => some .enum
  | custom _ _ => some .custom
  | undefined | general _ => none

namespace Rule

@[simp] theorem ofKey?_name (rule : Rule) : ofKey? (.text rule.name) = some rule := by
  cases rule <;> rfl

private theorem ofKey?_eq_some_iff {key : Value} {rule : Rule} :
    ofKey? key = some rule ↔ key = .text rule.name := by
  constructor
  · intro h
    cases key with
    | text s => exact congrArg _ (eq_of_beq (List.find?_some (p := fun r : Rule => r.name == s) h)).symm
    | _ => cases h
  · rintro rfl
    exact ofKey?_name rule

/-- If the error is a violation, it says that the value on its own breaks the rule. -/
def Reports (rule : Rule) (v : Value) (e : Error) : Prop :=
  ∀ x, e = .violation x → x.breach.rule? = some rule ∧ x.value = v ∧ x.key = .null

section

variable {rule : Rule} {v : Value}

theorem reports_of_form {α : Type} {x : Except Error α} (h : FailsByForm x) :
    FailsOnly (rule.Reports v) x := by
  refine h.mono fun e formal x same => ?_
  rw [same] at formal
  cases formal

theorem reports_ofBreach {breach : Breach Error} (h : breach.rule? = some rule) :
    rule.Reports v (.ofBreach breach v) := by
  rintro x same
  obtain rfl := Error.violation.inj same
  exact ⟨h, rfl, rfl⟩

end

mutual

theorem failsByForm_ofClass (v : Value) : (criterion : Value) → FailsByForm (ofClass v criterion)
  | .callable (.constructor _) => .ok _
  | .tuple cs => failsByForm_ofAnyClass v cs
  | .callable (.named _) => .error rfl
  | .null | .undefined | .bool _ | .int _ | .float _ | .decimal _ | .text _ | .looseText _
  | .bytes _ | .list _ | .set _ _ | .dict _ | .uuid _ | .date _ _ _ | .object | .relation _
  | .record _ _ _ | .reference _ _ => .error rfl

theorem failsByForm_ofAnyClass (v : Value) : (cs : List Value) → FailsByForm (ofAnyClass v cs)
  | [] => .ok _
  | c :: cs => by
    rw [ofAnyClass]
    exact .bind (failsByForm_ofClass v c) fun found => .ite (.ok _) (failsByForm_ofAnyClass v cs)

end

theorem failsByForm_hasType (v criterion : Value) : FailsByForm (hasType v criterion) := by
  unfold hasType
  split
  · exact .ok _
  · exact .ok _
  · exact failsByForm_ofClass v _

theorem failsByForm_said (e : Error) : FailsByForm e.said := by
  cases e with
  | violation x =>
    change FailsByForm x.said
    unfold Violation.said
    split
    · exact .ok _
    · exact .ok _
    · exact .error rfl
    · exact .bind (Value.failsByForm_toText _) fun field =>
        .bind (Value.failsByForm_toText _) fun wording => .ok _
  | _ => exact .ok _

/-- What a predicate raises becomes a failure of the predicate, unless it is a request to stop or has nothing
to say. -/
theorem reports_judge (v : Value) (x : Except Error Value) :
    FailsOnly (custom.Reports v) (judge v x) := by
  cases x with
  | ok answer => exact .ite (.ok _) (.error (reports_ofBreach rfl))
  | error e =>
    by_cases ordinary : e.isOrdinary
    · rw [judge, if_pos ordinary]
      exact .bind (reports_of_form (failsByForm_said e)) fun text => .error (reports_ofBreach rfl)
    · rw [judge, if_neg ordinary]
      refine .error ?_
      rintro x rfl
      exact absurd rfl ordinary

theorem reports_check (fns : Functions) (v criterion : Value) (rule : Rule) :
    FailsOnly (rule.Reports v) (rule.check fns v criterion) := by
  cases rule with
  | required => exact .ite (.error (reports_ofBreach rfl)) (.ok _)
  | type =>
    refine .ite (.ok _) ?_
    exact .bind (reports_of_form (failsByForm_hasType v criterion)) fun fits =>
      .ite (.ok _) (.error (reports_ofBreach rfl))
  | max | min =>
    rw [check]
    split
    · exact .ok _
    · exact .bind (reports_of_form (Value.failsByForm_compare _ _ _)) fun outside =>
        .ite (.error (reports_ofBreach rfl)) (.ok _)
  | enum =>
    refine .bind (reports_of_form (Value.failsByForm_memberOf v criterion)) fun found => ?_
    refine .ite (.ok _) (.error ?_)
    split
    · exact reports_ofBreach rfl
    · exact nofun
  | custom => exact reports_judge v _

theorem check_required_eq_error_iff {fns : Functions} {v criterion value key : Value} :
    check fns v criterion .required = .error (.violation ⟨.missing, value, key⟩) ↔
      v.isMissing ∧ criterion.truthy ∧ value = v ∧ key = .null := by
  constructor
  · intro h
    rw [check] at h
    split at h
    · rename_i broken
      obtain ⟨truthy, missing⟩ := Bool.and_eq_true_iff.1 broken
      cases h
      exact ⟨missing, truthy, rfl, rfl⟩
    · cases h
  · rintro ⟨missing, truthy, rfl, rfl⟩
    rw [check, truthy, missing]
    rfl

end Rule

namespace Validation

section

variable (fns : Functions) {v : Value} {entry : Value × Value} {entries : List (Value × Value)}

theorem checkEntry_of_name {rule : Rule} (h : entry.1 = .text rule.name) :
    checkEntry fns v entry = rule.check fns v entry.2 := by
  rw [checkEntry, h, Rule.ofKey?_name]

theorem checkEntry_eq_error {e : Error} :
    checkEntry fns v entry = .error e ↔
      ∃ rule : Rule, entry.1 = .text rule.name ∧ rule.check fns v entry.2 = .error e := by
  unfold checkEntry
  simp only [← Rule.ofKey?_eq_some_iff]
  cases Rule.ofKey? entry.1 with
  | none => exact ⟨nofun, nofun⟩
  | some rule => simp

theorem checkEntries_eq_forM : checkEntries fns v entries = forM entries (checkEntry fns v) := by
  induction entries with
  | nil => rfl
  | cons entry entries ih => rw [checkEntries, ih, List.forM_cons]

theorem checkEntries_eq_ok :
    checkEntries fns v entries = .ok () ↔ ∀ entry ∈ entries, checkEntry fns v entry = .ok () := by
  rw [checkEntries_eq_forM, forM_eq_ok]

end

private theorem definite_checkEntry (fns : Functions) (v : Value) (entry : Value × Value) :
    Definite (checkEntry fns v entry) := by
  intro e h
  obtain ⟨rule, _, failed⟩ := (checkEntry_eq_error fns).1 h
  cases e with
  | violation x =>
    obtain ⟨breach, value, key⟩ := x
    cases breach with
    | undefined => cases (Rule.reports_check fns v entry.2 rule _ failed _ rfl).1
    | _ => rfl
  | _ => rfl

theorem definite_checkEntries (fns : Functions) (v : Value) (entries : List (Value × Value)) :
    Definite (checkEntries fns v entries) := by
  induction entries with
  | nil => exact FailsOnly.ok _
  | cons entry entries ih => exact FailsOnly.bind (definite_checkEntry fns v entry) fun _ => ih

theorem operationError_cases (classes : List ValueClass) (v : Value) :
    v.operationError classes = .typeMismatch ∨ v.operationError classes = .noAttribute := by
  unfold Value.operationError
  split
  · split
    · exact .inl rfl
    · exact .inr rfl
  · exact .inr rfl

theorem entriesOf_eq_error {rules : Value} {e : Error} (h : entriesOf rules = .error e) :
    e = .typeMismatch ∨ e = .noAttribute := by
  unfold entriesOf at h
  split at h
  · cases h
  · exact Except.error.inj h ▸ operationError_cases _ _

theorem definite_entriesOf (rules : Value) : Definite (entriesOf rules) := by
  intro e h
  rcases entriesOf_eq_error h with rfl | rfl <;> rfl

end Validation

end RecordMapper
