import RecordMapper.Operation.Write
import RecordMapper.Proofs.Except
import RecordMapper.Proofs.Value.Mapping

/-!
What a record takes over from a reply. Whatever the reply is, only primary keys differ afterwards. From
a first row that is a map each primary key takes the value that the row has for it, if there is one.
-/
namespace RecordMapper

def Mapping.besides (names : List String) (m : Mapping) : Entries :=
  m.entries.filter fun e => !e.1.isIn (names.map .text)

theorem Mapping.besides_insert {names : List String} {name : String} (here : name ∈ names) (m : Mapping)
    (v : Value) : Mapping.besides names (m.insert (.text name) v) = Mapping.besides names m := by
  have out {k : Value} (same : (k == .text name) = true) : k.isIn (names.map .text) = true :=
    List.any_eq_true.2 ⟨.text name, List.mem_map_of_mem here, same⟩
  unfold besides
  cases found : m.contains (.text name) with
  | true =>
    rw [OrderedMap.entries_insert_of_contains v found, List.filter_map]
    have keys : ((fun e : Value × Value => !e.1.isIn (names.map .text)) ∘
        fun e => if e.1 == .text name then (e.1, v) else e) = fun e => !e.1.isIn (names.map .text) := by
      funext e
      simp only [Function.comp]
      split <;> rfl
    rw [keys]
    refine (List.map_congr_left fun e he => ?_).trans (List.map_id _)
    rw [if_neg]
    · rfl
    · intro same
      simp [out same] at he
  | false =>
    rw [OrderedMap.entries_insert_of_not_contains v found, List.filter_append]
    simp [out]

namespace Record

/-- The records differ in some attributes at the most. -/
structure SameBesides (names : List String) (r r' : Record) : Prop where
  model : r'.model = r.model
  schema : r'.schema = r.schema
  identity : r'.identity = r.identity
  attributes : Mapping.besides names r'.attributes = Mapping.besides names r.attributes

namespace SameBesides

theorem refl (names : List String) (r : Record) : SameBesides names r r := ⟨rfl, rfl, rfl, rfl⟩

theorem trans {names : List String} {r s t : Record} (h : SameBesides names r s)
    (h' : SameBesides names s t) : SameBesides names r t :=
  ⟨h'.model.trans h.model, h'.schema.trans h.schema, h'.identity.trans h.identity,
    h'.attributes.trans h.attributes⟩

theorem assign {names : List String} {name : String} (here : name ∈ names) (r : Record) (v : Value) :
    SameBesides names r (r.assign name v) :=
  ⟨rfl, rfl, rfl, Mapping.besides_insert here r.attributes v⟩

end SameBesides

private theorem sameBesides_of_adoptKey {names : List String} {key : String} (here : key ∈ names)
    {reply : Reply} {r r' : Record} (h : adoptKey reply r key = .ok r') : SameBesides names r r' := by
  obtain ⟨row, _, h⟩ := bind_eq_ok.1 h
  obtain ⟨there, _, h⟩ := bind_eq_ok.1 h
  split at h
  · obtain ⟨v, _, h⟩ := bind_eq_ok.1 h
    obtain rfl := pure_eq_ok.1 h
    exact .assign here r v
  · obtain rfl := pure_eq_ok.1 h
    exact .refl names r

/-- Only primary keys differ in a record that has taken over those of a reply. -/
theorem sameBesides_of_adoptKeys {reply : Reply} {r r' : Record} (h : r.adoptKeys reply = .ok r') :
    SameBesides r.schema.primary r r' := by
  have each (keys : List String) (known : ∀ key ∈ keys, key ∈ r.schema.primary) {s t : Record}
      (h : keys.foldlM (adoptKey reply) s = .ok t) : SameBesides r.schema.primary s t := by
    induction keys generalizing s with
    | nil =>
      obtain rfl := pure_eq_ok.1 h
      exact .refl _ s
    | cons key keys ih =>
      rw [List.forall_mem_cons] at known
      obtain ⟨next, hnext, h⟩ := bind_eq_ok.1 h
      exact (sameBesides_of_adoptKey known.1 hnext).trans (ih known.2 h)
  unfold adoptKeys at h
  split at h
  · exact each r.schema.primary (fun _ here => here) h
  · obtain rfl := pure_eq_ok.1 h
    exact .refl _ r

/-! Replies that are lists of rows. -/

/-- The record with the value that a row has for a key, if it has one. -/
def adopted (row : Row) (r : Record) (key : String) : Record :=
  match row.get? (.text key) with
  | some v => r.assign key v
  | none => r

private theorem adoptKey_ofRows (first : Row) (rest : List Row) (r : Record) (key : String) :
    adoptKey (.ofRows (first :: rest)) r key = .ok (adopted first r key) := by
  have row : (Reply.ofRows (first :: rest)).part (.int 0) = .ok first.toValue := by
    simp [Reply.ofRows, Value.part, Value.itemAt]
    rfl
  rw [adoptKey, row, ok_bind, Value.memberOf_dict_of_isText rfl, adopted]
  cases found : first.get? (.text key) with
  | none => rfl
  | some v =>
    rw [ok_bind, Value.part_of_get? found]
    rfl

private theorem get?_adopted (row : Row) (r : Record) (key name : String) :
    (adopted row r key).attributes.get? (.text name) =
      if key = name then (row.get? (.text name)).or (r.attributes.get? (.text name))
      else r.attributes.get? (.text name) := by
  unfold adopted
  cases found : row.get? (.text key) with
  | none =>
    by_cases same : key = name
    · simp [← same, found]
    · simp [same]
  | some v =>
    change (OrderedMap.insert r.attributes (.text key) v).get? (.text name) = _
    rw [OrderedMap.get?_insert_of_isText rfl, Value.text_beq_text]
    by_cases same : key = name
    · simp [← same, found]
    · simp [same]

theorem get?_foldl_adopted (row : Row) (keys : List String) (r : Record) (name : String) :
    (keys.foldl (adopted row) r).attributes.get? (.text name) =
      if name ∈ keys then (row.get? (.text name)).or (r.attributes.get? (.text name))
      else r.attributes.get? (.text name) := by
  induction keys generalizing r with
  | nil => rfl
  | cons key keys ih =>
    rw [List.foldl_cons, ih, get?_adopted]
    by_cases same : key = name
    · subst same
      cases row.get? (.text key) <;> simp
    · simp [same, Ne.symm same]

theorem adoptKeys_ofRows (first : Row) (rest : List Row) (r : Record) :
    r.adoptKeys (.ofRows (first :: rest)) = .ok (r.schema.primary.foldl (adopted first) r) := by
  have each (keys : List String) (r : Record) :
      keys.foldlM (adoptKey (.ofRows (first :: rest))) r = .ok (keys.foldl (adopted first) r) := by
    induction keys generalizing r with
    | nil => rfl
    | cons key keys ih =>
      rw [List.foldlM_cons, adoptKey_ofRows, ok_bind, ih]
      rfl
  have rows : ((Reply.ofRows (first :: rest)).truthy && !isGeneric (.ofRows (first :: rest))) = true := rfl
  rw [adoptKeys, rows]
  exact each r.schema.primary r

end Record

end RecordMapper
