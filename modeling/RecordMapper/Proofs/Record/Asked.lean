import RecordMapper.Operation.Write
import RecordMapper.Proofs.Record.Attributes

/-!
What a record answers when it is asked for its keys or its values. Attributes of the same names stand
in front of the answers, and only a class among them lets the question pass, with an empty answer.
-/
namespace RecordMapper

namespace Value

private theorem empty_of_blank {c : ValueClass} {v : Value} {m : Mapping} (blank : c.blank = .ok v)
    (h : v.orEmpty.toMapping = .ok m) : m = .empty := by
  cases c with
  | object | number | date | uuid => cases blank <;> cases h
  | _ =>
    cases blank
    exact (Except.ok.inj h).symm

end Value

namespace Record

def HiddenByClass (r : Record) (o : RecordOperation) : Prop :=
  ∃ c, r.hiding? o = some (.callable (.constructor c))

theorem hiding?_ne_none {r : Record} {o : RecordOperation} (h : r.HiddenByClass o) :
    r.hiding? o ≠ none := by
  obtain ⟨c, hidden⟩ := h
  simp [hidden]

/-- No class stands in front of the primary keys. -/
def AnswersForKeys (r : Record) : Prop :=
  ¬ r.HiddenByClass .primary ∧ ¬ r.HiddenByClass .requirePrimary

theorem offer_eq_ok {r : Record} {o : RecordOperation} (h : r.hiding? o = none) :
    r.offer o = .ok () := by
  rw [offer, h]
  rfl

theorem ask_eq_ok {r : Record} {o : RecordOperation} {own : Except Error Value} {v : Value}
    (h : r.ask o own = .ok v) :
    (r.hiding? o = none ∧ own = .ok v) ∨
      (r.HiddenByClass o ∧ ∀ m, v.orEmpty.toMapping = .ok m → m = .empty) := by
  unfold ask at h
  split at h
  · rename_i free
    exact .inl ⟨free, h⟩
  · rename_i c hidden
    exact .inr ⟨⟨c, hidden⟩, fun m => Value.empty_of_blank h⟩
  · cases h

theorem askKeys_eq_primary {r : Record} (h : r.hiding? .primary = none) :
    r.askKeys = .ok r.primary := by
  rw [askKeys, askPrimary, ask_eq_own h]
  simp [pure, Except.pure, bind, Except.bind]

theorem askKeys_eq_ok {r : Record} {keys : Mapping} (h : r.askKeys = .ok keys) :
    (r.hiding? .primary = none ∧ keys = r.primary) ∨
      (r.HiddenByClass .primary ∧ keys = .empty) := by
  obtain ⟨v, hv, found⟩ := bind_eq_ok.1 h
  split at found
  · rename_i m hm
    obtain rfl := pure_eq_ok.1 found
    rcases ask_eq_ok hv with ⟨free, _⟩ | ⟨hidden, empty⟩
    · exact .inl ⟨free, Except.ok.inj (h.symm.trans (askKeys_eq_primary free))⟩
    · exact .inr ⟨hidden, empty m (Value.orEmpty_toMapping (Value.toMapping_of_mapping? hm))⟩
  · cases found

theorem askValues_eq_ok {r : Record} {v : Value} {values : Mapping} (h : r.askValues false = .ok v)
    (hv : v.toMapping = .ok values) :
    (r.hiding? .values = none ∧ values = r.values false) ∨
      (r.HiddenByClass .values ∧ values = .empty) := by
  rcases ask_eq_ok h with ⟨free, own⟩ | ⟨hidden, empty⟩
  · obtain rfl := pure_eq_ok.1 own
    rw [Value.toMapping_toValue] at hv
    exact .inl ⟨free, (Except.ok.inj hv).symm⟩
  · exact .inr ⟨hidden, empty values (Value.orEmpty_toMapping hv)⟩

def unset? (e : Value × Value) : Option String :=
  match e.2 with
  | .null => some e.1.shown
  | _ => none

private theorem filterMap_unset? (r : Record) : r.primary.entries.filterMap unset? = r.unsetKeys := by
  rw [entries_primary, keyEntries, unsetKeys]
  induction r.keyNames with
  | nil => rfl
  | cons name names ih =>
    rw [List.map_cons, List.filterMap_cons, List.filter_cons, ih]
    cases r.valueOf name <;> simp [unset?, Value.isNull]

theorem requirePrimary_eq {r : Record} (keys : r.hiding? .primary = none)
    (required : r.hiding? .requirePrimary = none) :
    r.requirePrimary =
      if r.unsetKeys = [] then .ok r.primary.toValue
      else .error (.missingPrimary r.model.ref.name r.unsetKeys) := by
  rw [requirePrimary, ask_eq_own required, askKeys_eq_primary keys]
  change (if (r.primary.entries.filterMap unset?).isEmpty then Except.ok r.primary.toValue
    else Except.error (Error.missingPrimary r.model.ref.name (r.primary.entries.filterMap unset?))) = _
  rw [filterMap_unset?]
  cases r.unsetKeys <;> rfl

/-- Keys that are required are all set, unless a class has answered for the record. -/
theorem requirePrimary_eq_ok {r : Record} {primary : Value} (h : r.requirePrimary = .ok primary) :
    (primary = r.primary.toValue ∧ r.unsetKeys = []) ∨
      (¬ r.AnswersForKeys ∧ ∀ m, primary.orEmpty.toMapping = .ok m → m = .empty) := by
  rcases ask_eq_ok h with ⟨required, own⟩ | ⟨hidden, empty⟩
  · obtain ⟨keys, hkeys, own⟩ := bind_eq_ok.1 own
    rcases askKeys_eq_ok hkeys with ⟨free, _⟩ | ⟨hidden, rfl⟩
    · rw [requirePrimary_eq free required] at h
      split at h
      · rename_i set
        exact .inl ⟨(Except.ok.inj h).symm, set⟩
      · cases h
    · obtain rfl := pure_eq_ok.1 own
      exact .inr ⟨fun answers => answers.1 hidden, fun m hm => (Except.ok.inj hm).symm⟩
  · exact .inr ⟨fun answers => answers.2 hidden, empty⟩

end Record

end RecordMapper
