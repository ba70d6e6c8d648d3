import RecordMapper.Value.SetOrder

/-!
A store of records. Values that are kept for later hold references to the records of a store, so that
a record is one thing wherever it is held, and what is kept of a record is said once. To be looked at,
a value is unfolded: the records that it refers to take the places of the references, apart from the
references to a record inside that record itself.
-/
namespace RecordMapper

/-- The attributes of records, in which records are references; the identity of a record is its place
in the list. -/
structure Store where
  records : List Entries := []

namespace Value

def references (v : Value) : List Nat :=
  v.inner.filterMap fun
    | reference _ n => some n
    | _ => none

def renamed (f : Nat → Nat) : Value → Value :=
  mapRecords fun
    | reference c n => reference c (f n)
    | v => v

def copied (f : Nat → Nat) (v : Value) : Value := v.rebuilt.renamed f

end Value

namespace Store

def attributes (s : Store) (n : Nat) : Entries := s.records.getD n []

def kept (es : Entries) : Entries := es.map fun e => (e.1, e.2.folded)

/-- Adds a record with the given attributes; it is the one of the first identity that is free. -/
def add (s : Store) (es : Entries) : Store := ⟨s.records ++ [kept es]⟩

def change (s : Store) (n : Nat) (es : Entries) : Store := ⟨s.records.set n (kept es)⟩

@[simp] theorem attributes_add (s : Store) (es : Entries) :
    (s.add es).attributes s.records.length = kept es := by
  simp [attributes, add]

theorem attributes_change_self {s : Store} {n : Nat} (es : Entries) (h : n < s.records.length) :
    (s.change n es).attributes n = kept es := by
  simp [attributes, change, h]

theorem attributes_change_of_ne (s : Store) {m n : Nat} (es : Entries) (h : m ≠ n) :
    (s.change n es).attributes m = s.attributes m := by
  simp [attributes, change, h.symm]

/-- The value with records in place of references, so many inside one another at the most. The
records around the value stay references. -/
def unfoldIn (s : Store) : (depth : Nat) → (around : List Nat) → Value → Value
  | 0, _ => id
  | depth + 1, around =>
    Value.mapRecords fun
      | .reference c n =>
        if around.contains n then .reference c n
        else .record c (some n)
          ((s.attributes n).map fun e => (e.1, s.unfoldIn depth (n :: around) e.2))
      | v => v

/-- The value with records in place of references. No more records than there are can be around
one another. -/
def unfold (s : Store) (v : Value) : Value := s.unfoldIn s.records.length [] v

/-- The value as it is now, whenever it was unfolded before. -/
def refresh (s : Store) (v : Value) : Value := s.unfold v.folded

theorem refresh_eq_text (s : Store) {t : Value} (text : (∃ x, t = .text x) ∨ ∃ ns, t = .looseText ns)
    (v : Value) : s.refresh v = t ↔ v = t := by
  have unfold (depth : Nat) (w : Value) : s.unfoldIn depth [] w = t ↔ w = t := by
    cases depth with
    | zero => rfl
    | succ depth =>
      refine Value.mapRecords_eq_text text (fun v h => ?_) w
      rcases text with ⟨x, rfl⟩ | ⟨ns, rfl⟩ <;> cases v <;> simp_all
  refine (unfold _ _).trans (Value.mapRecords_eq_text text (fun v h => ?_) v)
  rcases text with ⟨x, rfl⟩ | ⟨ns, rfl⟩ <;> split at h <;> simp_all

def reached (s : Store) : (steps : Nat) → List Nat → List Nat
  | 0, ns => ns
  | steps + 1, ns =>
    s.reached steps (ns ++ (ns.flatMap fun n => (s.attributes n).flatMap (·.2.references))).eraseDups

/-- Adds a copy of each record that values refer to, directly or through others, and tells which copy
belongs to a record. -/
def copy (s : Store) (vs : List Value) : Store × (Nat → Nat) :=
  let ns := s.reached s.records.length (vs.flatMap Value.references)
  let rename (n : Nat) := s.records.length + ns.idxOf n
  (⟨s.records ++ ns.map fun n => (s.attributes n).map fun e => (e.1.rebuilt, e.2.copied rename)⟩,
    rename)

end Store

end RecordMapper
