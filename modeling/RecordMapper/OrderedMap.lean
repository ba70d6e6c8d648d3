/-!
Maps that keep their keys in the order of first insertion. A key that is inserted again keeps its
place and its first spelling and takes the new value. No two keys of a map are equal.
-/
namespace RecordMapper

universe u v w

/-- A finite map whose entries stand in insertion order. -/
structure OrderedMap (κ : Type u) (α : Type v) [BEq κ] where
  entries : List (κ × α)
  distinct : entries.Pairwise fun a b => (a.1 == b.1) = false

namespace OrderedMap

variable {κ : Type u} {α : Type v} {β : Type w} [BEq κ]

def empty : OrderedMap κ α := ⟨[], .nil⟩

instance : Inhabited (OrderedMap κ α) := ⟨empty⟩

def keys (m : OrderedMap κ α) : List κ := m.entries.map (·.1)

def values (m : OrderedMap κ α) : List α := m.entries.map (·.2)

def size (m : OrderedMap κ α) : Nat := m.entries.length

def isEmpty (m : OrderedMap κ α) : Bool := m.entries.isEmpty

def get? (m : OrderedMap κ α) (k : κ) : Option α :=
  (m.entries.find? fun e => e.1 == k).map (·.2)

def contains (m : OrderedMap κ α) (k : κ) : Bool :=
  m.entries.any fun e => e.1 == k

/-- Gives a key a value, in its old place or else at the end. -/
def insert (m : OrderedMap κ α) (k : κ) (v : α) : OrderedMap κ α :=
  if h : m.contains k then
    { entries := m.entries.map fun e => if e.1 == k then (e.1, v) else e
      distinct := by
        rw [List.pairwise_map]
        refine m.distinct.imp fun {a b} hab => ?_
        have first (e : κ × α) : (if e.1 == k then (e.1, v) else e).1 = e.1 := by split <;> rfl
        rw [first, first, hab] }
  else
    { entries := m.entries ++ [(k, v)]
      distinct := by
        refine List.pairwise_append.2 ⟨m.distinct, List.pairwise_singleton _ _, ?_⟩
        intro a ha b hb
        obtain rfl := List.mem_singleton.1 hb
        simpa using (List.any_eq_false.1 (Bool.not_eq_true _ ▸ h)) a ha }

def insertAll (m : OrderedMap κ α) (es : List (κ × α)) : OrderedMap κ α :=
  es.foldl (fun m e => m.insert e.1 e.2) m

/-- The map of a list of entries; of equal keys the first place and the last value count. -/
def ofEntries (es : List (κ × α)) : OrderedMap κ α :=
  empty.insertAll es

def filter (m : OrderedMap κ α) (p : κ → α → Bool) : OrderedMap κ α :=
  ⟨m.entries.filter fun e => p e.1 e.2, m.distinct.sublist List.filter_sublist⟩

def erase (m : OrderedMap κ α) (k : κ) : OrderedMap κ α :=
  m.filter fun k' _ => !(k' == k)

def mapValues (m : OrderedMap κ α) (f : κ → α → β) : OrderedMap κ β :=
  { entries := m.entries.map fun e => (e.1, f e.1 e.2)
    distinct := by rw [List.pairwise_map]; exact m.distinct }

@[ext] theorem ext {m n : OrderedMap κ α} (h : m.entries = n.entries) : m = n := by
  cases m; cases n; cases h; rfl

@[simp] theorem entries_empty : (empty : OrderedMap κ α).entries = [] := rfl

@[simp] theorem get?_empty (k : κ) : (empty : OrderedMap κ α).get? k = none := rfl

@[simp] theorem contains_empty (k : κ) : (empty : OrderedMap κ α).contains k = false := rfl

@[simp] theorem entries_filter (m : OrderedMap κ α) (p : κ → α → Bool) :
    (m.filter p).entries = m.entries.filter fun e => p e.1 e.2 := rfl

@[simp] theorem entries_mapValues (m : OrderedMap κ α) (f : κ → α → β) :
    (m.mapValues f).entries = m.entries.map fun e => (e.1, f e.1 e.2) := rfl

@[simp] theorem get?_mapValues (m : OrderedMap κ α) (f : α → β) (k : κ) :
    (m.mapValues fun _ v => f v).get? k = (m.get? k).map f := by
  simp only [get?, entries_mapValues, List.find?_map, Option.map_map]
  rfl

@[simp] theorem contains_mapValues (m : OrderedMap κ α) (f : κ → α → β) (k : κ) :
    (m.mapValues f).contains k = m.contains k := by
  simp [contains, List.any_map, Function.comp_def]

@[simp] theorem insertAll_nil (m : OrderedMap κ α) : m.insertAll [] = m := rfl

@[simp] theorem insertAll_cons (m : OrderedMap κ α) (e : κ × α) (es : List (κ × α)) :
    m.insertAll (e :: es) = (m.insert e.1 e.2).insertAll es := rfl

theorem contains_eq_isSome (m : OrderedMap κ α) (k : κ) : m.contains k = (m.get? k).isSome := by
  rw [Bool.eq_iff_iff]
  simp [contains, get?]

theorem entries_insert_of_contains {m : OrderedMap κ α} {k : κ} (v : α)
    (h : m.contains k = true) :
    (m.insert k v).entries = m.entries.map fun e => if e.1 == k then (e.1, v) else e := by
  simp [insert, h]

theorem entries_insert_of_not_contains {m : OrderedMap κ α} {k : κ} (v : α)
    (h : m.contains k = false) : (m.insert k v).entries = m.entries ++ [(k, v)] := by
  simp [insert, h]

theorem keys_insert (m : OrderedMap κ α) (k : κ) (v : α) :
    (m.insert k v).keys = if m.contains k then m.keys else m.keys ++ [k] := by
  cases h : m.contains k with
  | true =>
    rw [keys, entries_insert_of_contains v h, List.map_map, if_pos rfl, keys]
    refine List.map_congr_left fun e _ => ?_
    simp only [Function.comp]
    split <;> rfl
  | false => simp [keys, entries_insert_of_not_contains v h]

theorem entries_insertAll {m : OrderedMap κ α} {es : List (κ × α)}
    (h : (m.entries ++ es).Pairwise fun a b => (a.1 == b.1) = false) :
    (m.insertAll es).entries = m.entries ++ es := by
  induction es generalizing m with
  | nil => simp
  | cons e es ih =>
    have fresh : m.contains e.1 = false := by
      refine List.any_eq_false.2 fun a ha => ?_
      simp [(List.pairwise_append.1 h).2.2 a ha e (List.mem_cons_self ..)]
    have entries := entries_insert_of_not_contains e.2 fresh
    rw [insertAll_cons, ih (by rw [entries]; simpa using h), entries]
    simp

theorem length_insert (m : OrderedMap κ α) (k : κ) (v : α) :
    (m.insert k v).entries.length = m.entries.length + if m.contains k then 0 else 1 := by
  cases h : m.contains k with
  | true => simp [entries_insert_of_contains v h]
  | false => simp [entries_insert_of_not_contains v h]

theorem length_insertAll_le (m : OrderedMap κ α) (es : List (κ × α)) :
    (m.insertAll es).entries.length ≤ m.entries.length + es.length := by
  induction es generalizing m with
  | nil => exact Nat.le_refl _
  | cons e es ih =>
    have rest := ih (m.insert e.1 e.2)
    rw [length_insert] at rest
    rw [insertAll_cons, List.length_cons]
    split at rest <;> omega

/-- Each inserted entry is an entry of its own exactly if its key is new. -/
theorem length_insertAll_eq_iff {m : OrderedMap κ α} {es : List (κ × α)} :
    (m.insertAll es).entries.length = m.entries.length + es.length ↔
      (m.entries ++ es).Pairwise fun a b => (a.1 == b.1) = false := by
  induction es generalizing m with
  | nil => simpa using m.distinct
  | cons e es ih =>
    cases known : m.contains e.1 with
    | true =>
      have lost := length_insertAll_le (m.insert e.1 e.2) es
      rw [length_insert, known, if_pos rfl] at lost
      obtain ⟨a, ha, same⟩ := List.any_eq_true.1 known
      constructor
      · intro all
        rw [insertAll_cons, List.length_cons] at all
        omega
      · intro distinct
        rw [(List.pairwise_append.1 distinct).2.2 a ha e (List.mem_cons_self ..)] at same
        cases same
    | false =>
      have rest := @ih (m.insert e.1 e.2)
      rw [length_insert, known, entries_insert_of_not_contains e.2 known, List.append_assoc] at rest
      rw [insertAll_cons, List.length_cons]
      refine Iff.trans ?_ rest
      simp [Nat.add_assoc, Nat.add_comm 1]

@[simp] theorem ofEntries_entries (m : OrderedMap κ α) : ofEntries m.entries = m := by
  apply ext
  rw [ofEntries, entries_insertAll (by simpa using m.distinct)]
  rfl

theorem find?_replace (es : List (κ × α)) (k k' : κ) (v : α) :
    (es.map fun e => if e.1 == k then (e.1, v) else e).find? (fun e => e.1 == k') =
      (es.find? fun e => e.1 == k').map fun e => if e.1 == k then (e.1, v) else e := by
  rw [List.find?_map]
  congr 2
  funext e
  simp only [Function.comp]
  split <;> rfl

theorem get?_insert_self (m : OrderedMap κ α) {k : κ} (v : α) (h : (k == k) = true) :
    (m.insert k v).get? k = some v := by
  cases found : m.contains k with
  | true =>
    rw [get?, entries_insert_of_contains v found, find?_replace]
    cases first : m.entries.find? fun e => e.1 == k with
    | none => simp [contains_eq_isSome, get?, first] at found
    | some e => simp [List.find?_some (p := fun e : κ × α => e.1 == k) first]
  | false =>
    have absent : m.entries.find? (fun e => e.1 == k) = none := by
      simpa [contains_eq_isSome, get?] using found
    simp [get?, entries_insert_of_not_contains v found, absent, h]

theorem insert_insert (m : OrderedMap κ α) {k : κ} (v w : α) (h : (k == k) = true) :
    (m.insert k v).insert k w = m.insert k w := by
  have again : (m.insert k v).contains k = true := by
    rw [contains_eq_isSome, get?_insert_self m v h]
    rfl
  apply ext
  rw [entries_insert_of_contains w again]
  cases found : m.contains k with
  | true =>
    rw [entries_insert_of_contains v found, entries_insert_of_contains w found, List.map_map]
    refine List.map_congr_left fun e _ => ?_
    cases same : e.1 == k <;> simp [same]
  | false =>
    have others : m.entries.map (fun e => if e.1 == k then (e.1, w) else e) = m.entries := by
      refine (List.map_congr_left fun e he => ?_).trans (List.map_id _)
      rw [if_neg (List.any_eq_false.1 found e he), id]
    rw [entries_insert_of_not_contains v found, entries_insert_of_not_contains w found,
      List.map_append, others]
    simp [h]

theorem get?_insert_of_ne (m : OrderedMap κ α) {k k' : κ} (v : α)
    (other : ∀ x, (x == k') = true → (x == k) = false) (h : (k == k') = false) :
    (m.insert k v).get? k' = m.get? k' := by
  cases found : m.contains k with
  | true =>
    rw [get?, entries_insert_of_contains v found, find?_replace, get?]
    cases first : m.entries.find? fun e => e.1 == k' with
    | none => rfl
    | some e =>
      have differs := other e.1 (List.find?_some (p := fun e : κ × α => e.1 == k') first)
      simp [differs]
  | false => simp [get?, entries_insert_of_not_contains v found, h]

theorem get?_of_mem {m : OrderedMap κ α} {k : κ} {v : α} (h : (k, v) ∈ m.entries)
    (same : (k == k) = true) : m.get? k = some v := by
  obtain ⟨front, back, entries⟩ := List.append_of_mem h
  have first : front.find? (fun e => e.1 == k) = none := by
    refine List.find?_eq_none.2 fun e he => ?_
    have distinct := m.distinct
    rw [entries] at distinct
    simp [(List.pairwise_append.1 distinct).2.2 e he (k, v) (List.mem_cons_self ..)]
  simp [get?, entries, List.find?_append, first, same]

section

variable [LawfulBEq κ]

theorem get?_insert (m : OrderedMap κ α) (k k' : κ) (v : α) :
    (m.insert k v).get? k' = if k == k' then some v else m.get? k' := by
  cases same : k == k' with
  | true =>
    obtain rfl := eq_of_beq same
    rw [if_pos rfl, get?_insert_self m v same]
  | false =>
    rw [if_neg Bool.false_ne_true]
    refine get?_insert_of_ne m v (fun x found => ?_) same
    rwa [eq_of_beq found, Bool.beq_comm]

theorem get?_erase (m : OrderedMap κ α) (k k' : κ) :
    (m.erase k).get? k' = if k == k' then none else m.get? k' := by
  rw [erase, get?, entries_filter, List.find?_filter, get?]
  cases same : k == k' with
  | true =>
    obtain rfl := eq_of_beq same
    simp
  | false =>
    rw [if_neg Bool.false_ne_true]
    congr 2
    funext e
    cases found : e.1 == k' with
    | false => simp
    | true => simp [eq_of_beq found, Bool.beq_comm.trans same]

theorem mem_keys {m : OrderedMap κ α} {k : κ} : k ∈ m.keys ↔ m.contains k = true := by
  simp [keys, contains]

theorem nodup_keys (m : OrderedMap κ α) : m.keys.Nodup := by
  rw [keys, List.Nodup, List.pairwise_map]
  exact m.distinct.imp ne_of_beq_false

theorem mem_entries_iff {m : OrderedMap κ α} {k : κ} {v : α} :
    (k, v) ∈ m.entries ↔ m.get? k = some v := by
  constructor
  · intro h
    exact get?_of_mem h BEq.rfl
  · intro h
    obtain ⟨e, first, rfl⟩ := Option.map_eq_some_iff.1 h
    obtain rfl := eq_of_beq (List.find?_some (p := fun e : κ × α => e.1 == k) first)
    exact List.mem_of_find?_eq_some first

/-- Where a key comes with one value only, insertion adds an entry and takes none away. -/
theorem mem_entries_insert {m : OrderedMap κ α} {k : κ} {v : α} (same : ∀ w, (k, w) ∈ m.entries → w = v)
    (e : κ × α) : e ∈ (m.insert k v).entries ↔ e ∈ m.entries ∨ e = (k, v) := by
  cases found : m.contains k with
  | false => simp [entries_insert_of_not_contains v found]
  | true =>
    have there : (k, v) ∈ m.entries := by
      rw [contains_eq_isSome] at found
      obtain ⟨w, hw⟩ := Option.isSome_iff_exists.1 found
      have mem := mem_entries_iff.2 hw
      rwa [same w mem] at mem
    have kept : (m.entries.map fun e => if e.1 == k then (e.1, v) else e) = m.entries := by
      refine List.map_congr_left (g := id) (fun e he => ?_) |>.trans (List.map_id _)
      by_cases h : e.1 = k
      · subst h
        simp [← same e.2 he]
      · simp [h]
    rw [entries_insert_of_contains v found, kept]
    constructor
    · exact Or.inl
    · rintro (h | rfl)
      · exact h
      · exact there

theorem mem_entries_insertAll {m : OrderedMap κ α} {es : List (κ × α)}
    (same : ∀ e ∈ m.entries ++ es, ∀ f ∈ m.entries ++ es, e.1 = f.1 → e.2 = f.2) (e : κ × α) :
    e ∈ (m.insertAll es).entries ↔ e ∈ m.entries ∨ e ∈ es := by
  induction es generalizing m with
  | nil => simp
  | cons f es ih =>
    have inserted := mem_entries_insert (m := m) (k := f.1) (v := f.2) fun w hw =>
      same (f.1, w) (by simp [hw]) f (by simp) rfl
    rw [insertAll_cons, ih, inserted, List.mem_cons, or_assoc]
    simp only [List.mem_append, List.mem_cons] at same
    simp only [List.mem_append, inserted, or_assoc]
    exact same

theorem mem_entries_ofEntries {es : List (κ × α)} (same : ∀ e ∈ es, ∀ f ∈ es, e.1 = f.1 → e.2 = f.2)
    (e : κ × α) : e ∈ (ofEntries es).entries ↔ e ∈ es := by
  rw [ofEntries, mem_entries_insertAll (by simpa using same)]
  simp

end

end OrderedMap

end RecordMapper
