import RecordMapper.Operation.Lookup
import RecordMapper.Proofs.Record.Asked

/-!
The columns of a record. The row that is stored of a record and the filter that looks for it are made of
the same answers, its primary keys and its values. Both leave out keys that are `null`; the filter
leaves out all else that is `null`, too, and the rest of the columns is in the same order.
-/
namespace RecordMapper

section

variable {α : Type} [BEq α] [LawfulBEq α]

theorem nodup_eraseDups : (xs : List α) → xs.eraseDups.Nodup
  | [] => .nil
  | x :: xs => by
    rw [List.eraseDups_cons, List.nodup_cons, List.mem_eraseDups, List.mem_filter]
    exact ⟨by simp, nodup_eraseDups _⟩
termination_by xs => xs.length
decreasing_by exact Nat.lt_succ_of_le (List.length_filter_le _ _)

theorem eraseDups_of_nodup {xs : List α} (h : xs.Nodup) : xs.eraseDups = xs := by
  induction xs with
  | nil => rfl
  | cons x xs ih =>
    rw [List.nodup_cons] at h
    have others : xs.filter (fun y => !y == x) = xs := by
      refine List.filter_eq_self.2 fun y here => ?_
      simpa using fun same : y = x => h.1 (same ▸ here)
    rw [List.eraseDups_cons, others, ih h.2]

theorem filter_eraseDups (p : α → Bool) : (xs : List α) → xs.eraseDups.filter p = (xs.filter p).eraseDups
  | [] => rfl
  | x :: xs => by
    rw [List.eraseDups_cons, List.filter_cons, List.filter_cons, filter_eraseDups p (xs.filter _)]
    split
    · rw [List.eraseDups_cons, List.filter_comm]
    · rename_i out
      rw [List.filter_filter]
      congr 1
      refine List.filter_congr fun y _ => ?_
      by_cases same : y = x <;> simp_all
termination_by xs => xs.length
decreasing_by exact Nat.lt_succ_of_le (List.length_filter_le _ _)

end

theorem Mapping.asFilter_eq (keys values : Mapping) :
    keys.asFilter values = (keys.insertAll values.entries).filter fun _ v => !v.isNull := by
  rw [asFilter]
  congr 1
  funext _ v
  cases v <;> rfl

namespace Record

theorem rowOf_eq (keys values : Mapping) :
    rowOf keys values = (keys.filter fun _ v => !v.isNull).insertAll values.entries := by
  rw [rowOf]
  congr 2
  funext _ v
  cases v <;> rfl

def toldKeys (r : Record) : List String := if (r.hiding? .primary).isNone then r.keyNames else []

def toldFields (r : Record) : List String :=
  if (r.hiding? .values).isNone then (r.schema.fieldNames.filter r.hasValue).eraseDups else []

def setKeys (r : Record) : List String := r.toldKeys.filter fun name => !(r.valueOf name).isNull

/-- The columns that are stored: the primary keys that have a value, and the other fields. -/
def storedColumns (r : Record) : List String :=
  r.setKeys ++ (r.toldFields.filter (· ∉ r.setKeys)).eraseDups

/-- The columns that are looked for: those that are stored and not `null`. -/
def askedColumns (r : Record) : List String :=
  r.storedColumns.filter fun name => !(r.valueOf name).isNull

private theorem mem_toldKeys {r : Record} {name : String} :
    name ∈ r.toldKeys ↔ r.hiding? .primary = none ∧ name ∈ r.schema.primary := by
  rw [toldKeys]
  split <;> simp_all [mem_keyNames]

theorem mem_toldFields {r : Record} {name : String} :
    name ∈ r.toldFields ↔ r.hiding? .values = none ∧ name ∈ r.schema.fieldNames ∧ r.hasValue name := by
  rw [toldFields]
  split <;> simp_all [List.mem_eraseDups]

theorem mem_storedColumns {r : Record} {name : String} :
    name ∈ r.storedColumns ↔
      (r.hiding? .primary = none ∧ name ∈ r.schema.primary ∧ r.valueOf name ≠ .null) ∨
        (r.hiding? .values = none ∧ name ∈ r.schema.fieldNames ∧ r.hasValue name) := by
  have kept : name ∈ r.setKeys ↔
      r.hiding? .primary = none ∧ name ∈ r.schema.primary ∧ r.valueOf name ≠ .null := by
    rw [setKeys, List.mem_filter, mem_toldKeys, Bool.not_eq_true', ← Bool.not_eq_true,
      Value.isNull_iff, and_assoc]
  rw [storedColumns, List.mem_append, List.mem_eraseDups, List.mem_filter, mem_toldFields,
    decide_eq_true_iff, ← kept]
  by_cases known : name ∈ r.setKeys
  · exact iff_of_true (.inl known) (.inl known)
  · exact or_congr_right (and_iff_left known)

theorem entries_askKeys {r : Record} {keys : Mapping} (h : r.askKeys = .ok keys) :
    keys.entries = r.toldKeys.map fun name => (.text name, r.valueOf name) := by
  rcases askKeys_eq_ok h with ⟨free, rfl⟩ | ⟨hidden, rfl⟩
  · rw [toldKeys, free]
    exact r.entries_primary
  · rw [toldKeys, if_neg]
    · rfl
    · simpa using hiding?_ne_none hidden

theorem entries_askValues {r : Record} {v : Value} {values : Mapping}
    (h : r.askValues false = .ok v) (hv : v.toMapping = .ok values) :
    values.entries = r.toldFields.map fun name => (.text name, r.valueOf name) := by
  rcases askValues_eq_ok h hv with ⟨free, rfl⟩ | ⟨hidden, rfl⟩
  · rw [toldFields, free]
    exact r.entries_values
  · rw [toldFields, if_neg]
    · rfl
    · simpa using hiding?_ne_none hidden

theorem entries_storedRow {r : Record} {row : Mapping} (h : r.storedRow = .ok row) :
    row.entries = r.storedColumns.map fun name => (.text name, r.valueOf name) := by
  obtain ⟨keys, hkeys, h⟩ := bind_eq_ok.1 h
  obtain ⟨v, hv, h⟩ := bind_eq_ok.1 h
  obtain ⟨values, hvalues, h⟩ := bind_eq_ok.1 h
  obtain rfl := pure_eq_ok.1 h
  rw [rowOf_eq, entries_askValues hv hvalues]
  apply Mapping.entries_insertAll_names
  rw [OrderedMap.entries_filter, entries_askKeys hkeys, List.filter_map, setKeys]
  rfl

theorem nodup_storedColumns (r : Record) : r.storedColumns.Nodup := by
  have keys : r.toldKeys.Nodup := by
    rw [toldKeys]
    split
    · exact nodup_eraseDups _
    · exact .nil
  refine List.nodup_append.2 ⟨keys.filter _, nodup_eraseDups _, ?_⟩
  rintro name set _ there rfl
  simp [List.mem_eraseDups, set] at there

theorem entries_asFilter {r : Record} {filter : Mapping} (h : r.asFilter = .ok filter) :
    filter.entries = r.askedColumns.map fun name => (.text name, r.valueOf name) := by
  obtain ⟨v, hv, h⟩ := bind_eq_ok.1 h
  obtain ⟨w, hw, h⟩ := bind_eq_ok.1 h
  split at h
  · rename_i keys values hkeys hvalues
    obtain rfl := pure_eq_ok.1 h
    have told : r.askKeys = .ok keys := by
      rw [askKeys, hv, ok_bind, hkeys]
      rfl
    have names := Mapping.entries_insertAll_names r.valueOf (entries_askKeys told) r.toldFields
    rw [Mapping.asFilter_eq, OrderedMap.entries_filter,
      entries_askValues hw (Value.toMapping_of_mapping? hvalues), names, List.filter_map]
    congr 1
    -- A field that is not `null` is among the keys exactly if it is among those that have a value.
    rw [askedColumns, storedColumns, List.filter_append, List.filter_append, filter_eraseDups,
      filter_eraseDups, setKeys, List.filter_filter, List.filter_filter, List.filter_filter]
    congr 2
    · simp only [Bool.and_self]
      rfl
    · refine List.filter_congr fun name _ => ?_
      simp only [Function.comp, List.mem_filter]
      cases (r.valueOf name).isNull <;> simp
  · cases h

theorem storedRow_of_free {r : Record} (keys : r.hiding? .primary = none)
    (values : r.hiding? .values = none) : r.storedRow = .ok (rowOf r.primary (r.values false)) := by
  refine bind_eq_ok.2 ⟨_, askKeys_eq_primary keys, ?_⟩
  refine bind_eq_ok.2 ⟨_, ask_eq_own values _, ?_⟩
  exact bind_eq_ok.2 ⟨_, Value.toMapping_toValue _, rfl⟩

end Record

end RecordMapper
