import RecordMapper.Value.Basic

/-!
What stands inside a value. The records in a value give the references in it their attributes, so
that a value with references is the finite picture of one without an end.
-/
namespace RecordMapper.Value

mutual

/-- The value and all values inside it; keys and members of sets, which hold no records, are left
out. -/
def inner : Value → List Value
  | list xs => list xs :: innerItems xs
  | tuple xs => tuple xs :: innerItems xs
  | dict es => dict es :: innerEntries es
  | record c identity es => record c identity es :: innerEntries es
  | v => [v]
termination_by structural v => v

def innerItems : List Value → List Value
  | [] => []
  | x :: xs => inner x ++ innerItems xs
termination_by structural xs => xs

def innerEntries : Entries → List Value
  | [] => []
  | (_, v) :: es => inner v ++ innerEntries es
termination_by structural es => es

end

theorem mem_innerItems {v : Value} {xs : List Value} : v ∈ innerItems xs ↔ ∃ x ∈ xs, v ∈ x.inner := by
  induction xs with
  | nil => simp [innerItems]
  | cons x xs ih => simp [innerItems, ih]

theorem mem_innerEntries {v : Value} {es : Entries} :
    v ∈ innerEntries es ↔ ∃ e ∈ es, v ∈ e.2.inner := by
  induction es with
  | nil => simp [innerEntries]
  | cons e es ih =>
    obtain ⟨k, w⟩ := e
    simp [innerEntries, ih]

def isReference : Value → Bool
  | reference _ _ => true
  | _ => false

/-- Has the value no end? A record in it holds itself, so that a reference comes back to it. -/
def isEndless (v : Value) : Bool := v.inner.any isReference

abbrev RecordTable := List (Nat × Entries)

def recordTable (vs : List Value) : RecordTable :=
  (vs.filterMap fun
    | record _ (some n) es => some (n, es)
    | _ => none).eraseDupsBy fun r s => r.1 == s.1

def recordCount (vs : List Value) : Nat :=
  (recordTable vs).length + vs.countP fun
    | record _ none _ => true
    | _ => false

def record? (table : RecordTable) : Value → Option (ClassRef × Option Nat × Entries)
  | record c identity es => some (c, identity, es)
  | reference c n => some (c, some n, (table.lookup n).getD [])
  | _ => none

mutual

def mapRecords (f : Value → Value) : Value → Value
  | list xs => list (mapItems f xs)
  | tuple xs => tuple (mapItems f xs)
  | dict es => dict (mapEntries f es)
  | record c identity es => f (record c identity es)
  | reference c n => f (reference c n)
  | v => v
termination_by structural v => v

def mapItems (f : Value → Value) : List Value → List Value
  | [] => []
  | x :: xs => mapRecords f x :: mapItems f xs
termination_by structural xs => xs

def mapEntries (f : Value → Value) : Entries → Entries
  | [] => []
  | (k, v) :: es => (k, mapRecords f v) :: mapEntries f es
termination_by structural es => es

end

def folded : Value → Value :=
  mapRecords fun
    | record c (some n) _ => reference c n
    | v => v

theorem mapRecords_eq_text {f : Value → Value} {t : Value}
    (text : (∃ s, t = .text s) ∨ ∃ ns, t = .looseText ns) (kept : ∀ v, f v = t → v = t) (v : Value) :
    v.mapRecords f = t ↔ v = t := by
  cases v with
  | record c n es | reference c n =>
    refine ⟨kept _, ?_⟩
    rintro rfl
    rcases text with ⟨s, h⟩ | ⟨ns, h⟩ <;> cases h
  | _ => rcases text with ⟨s, rfl⟩ | ⟨ns, rfl⟩ <;> simp [mapRecords]

mutual

@[simp] theorem mapRecords_id : (v : Value) → v.mapRecords id = v
  | list xs => by simp [mapRecords, mapItems_id xs]
  | tuple xs => by simp [mapRecords, mapItems_id xs]
  | dict es => by simp [mapRecords, mapEntries_id es]
  | null | undefined | bool _ | int _ | float _ | decimal _ | text _ | looseText _ | bytes _ | set _ _ | uuid _
  | date _ _ _ | object | callable _ | relation _ | record _ _ _ | reference _ _ => rfl

@[simp] theorem mapItems_id : (xs : List Value) → mapItems id xs = xs
  | [] => rfl
  | x :: xs => by simp [mapItems, mapRecords_id x, mapItems_id xs]

@[simp] theorem mapEntries_id : (es : Entries) → mapEntries id es = es
  | [] => rfl
  | (k, v) :: es => by simp [mapEntries, mapRecords_id v, mapEntries_id es]

end

end RecordMapper.Value
