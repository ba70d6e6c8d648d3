import RecordMapper.Proofs.Record.Modes

/-!
Where the attributes of a record come from. The data is stripped of what is not declared, and of what is
undefined; the primary keys are not. So what is not declared or not defined among the attributes was given
with the primary keys, under a name that is none of them.
-/
namespace RecordMapper

namespace OrderedMap

section

variable {κ α : Type} [BEq κ]

theorem mem_entries_insert_of_spelled {m : OrderedMap κ α} {k : κ} (v : α)
    (spelled : ∀ a ∈ m.entries, (a.1 == k) = true → a.1 = k) (e : κ × α) :
    e ∈ (m.insert k v).entries ↔ e = (k, v) ∨ e ∈ m.entries ∧ (e.1 == k) = false := by
  cases known : m.contains k with
  | false =>
    have other : ∀ a ∈ m.entries, (a.1 == k) = false := by
      intro a here
      simpa using List.any_eq_false.1 known a here
    rw [entries_insert_of_not_contains v known, List.mem_append, List.mem_singleton, or_comm]
    constructor
    · rintro (h | h)
      · exact .inl h
      · exact .inr ⟨h, other e h⟩
    · rintro (h | ⟨h, _⟩)
      · exact .inl h
      · exact .inr h
  | true =>
    obtain ⟨a, here, same⟩ := List.any_eq_true.1 known
    rw [entries_insert_of_contains v known, List.mem_map]
    constructor
    · rintro ⟨b, there, rfl⟩
      split
      · rename_i same
        rw [spelled b there same]
        exact .inl rfl
      · rename_i differs
        exact .inr ⟨there, Bool.not_eq_true _ ▸ differs⟩
    · rintro (rfl | ⟨there, differs⟩)
      · refine ⟨a, here, ?_⟩
        rw [if_pos same, spelled a here same]
      · refine ⟨e, there, ?_⟩
        rw [differs]
        rfl

theorem mem_entries_insertAll_of_spelled {m : OrderedMap κ α} {es : List (κ × α)}
    (distinct : es.Pairwise fun a b => (a.1 == b.1) = false)
    (spelled : ∀ a ∈ m.entries, ∀ b ∈ es, (a.1 == b.1) = true → a.1 = b.1) (e : κ × α) :
    e ∈ (m.insertAll es).entries ↔ e ∈ es ∨ e ∈ m.entries ∧ ∀ b ∈ es, (e.1 == b.1) = false := by
  induction es generalizing m with
  | nil => simp
  | cons first es ih =>
    obtain ⟨others, distinct⟩ := List.pairwise_cons.1 distinct
    have inserted := mem_entries_insert_of_spelled (m := m) first.2 fun a here =>
      spelled a here first (List.mem_cons_self ..)
    rw [insertAll_cons, ih distinct, inserted, List.mem_cons, List.forall_mem_cons]
    · constructor
      · rintro (h | ⟨rfl | ⟨h, differs⟩, rest⟩)
        · exact .inl (.inr h)
        · exact .inl (.inl rfl)
        · exact .inr ⟨h, differs, rest⟩
      · rintro ((rfl | h) | ⟨h, differs, rest⟩)
        · exact .inr ⟨.inl rfl, others⟩
        · exact .inl h
        · exact .inr ⟨.inr ⟨h, differs⟩, rest⟩
    · intro a here b hb same
      rcases (inserted a).1 here with rfl | ⟨h, _⟩
      · rw [others b hb] at same
        cases same
      · exact spelled a h b (List.mem_cons_of_mem _ hb) same

end

end OrderedMap

namespace Schema

variable {s : Schema}

theorem admits_iff {k : Value} :
    s.admits k ↔ ∃ name, k = .text name ∧ (name ∈ s.fieldNames ∨ name ∈ s.primary) := by
  cases k with
  | text name => simp [admits, fieldNames, OrderedMap.keys, OrderedMap.contains]
  | _ => simp [admits]

theorem admits_of_mem_stripped {values : Mapping} {e : Value × Value}
    (h : e ∈ (s.stripped values).entries) : s.admits e.1 :=
  (List.mem_filter.1 h).2

theorem mem_completeKey {values given : Mapping} {key : String} {e : Value × Value}
    (other : e.1 ≠ .text key) : e ∈ (completeKey values given key).entries ↔ e ∈ given.entries := by
  have differs : (e.1 == .text key) = false := by
    rw [Bool.eq_false_iff]
    exact fun same => other ((Value.beq_text_iff rfl e.1).1 same)
  have inserted (v : Value) : e ∈ (given.insert (.text key) v).entries ↔ e ∈ given.entries := by
    rw [OrderedMap.mem_entries_insert_of_spelled v fun a _ same => (Value.beq_text_iff rfl a.1).1 same]
    constructor
    · rintro (rfl | ⟨h, _⟩)
      · exact absurd rfl other
      · exact h
    · exact fun h => .inr ⟨h, differs⟩
  unfold completeKey
  split
  · exact inserted _
  · exact inserted _
  · rfl

theorem mem_completeKeys {values given : Mapping} {keys : List String} {e : Value × Value}
    (other : ∀ key ∈ keys, e.1 ≠ .text key) :
    e ∈ (keys.foldl (completeKey values) given).entries ↔ e ∈ given.entries := by
  induction keys generalizing given with
  | nil => rfl
  | cons key keys ih =>
    rw [List.forall_mem_cons] at other
    rw [List.foldl_cons, ih other.2, mem_completeKey other.1]

theorem mem_primaryOf {primary : Value} {values : Mapping} {e : Value × Value}
    (other : ∀ key ∈ s.primary, e.1 ≠ .text key) :
    e ∈ (s.primaryOf primary values).entries ↔ e ∈ (s.givenKeys primary).entries :=
  mem_completeKeys other

private theorem undefined_mem_primaryOf {primary : Value} {values : Mapping} {k : Value} :
    (k, .undefined) ∈ (s.primaryOf primary values).entries ↔
      (k, .undefined) ∈ (s.givenKeys primary).entries ∧ ∀ key ∈ s.primary, k ≠ .text key := by
  constructor
  · intro mem
    have other : ∀ key ∈ s.primary, k ≠ .text key := by
      rintro key here rfl
      have found := (OrderedMap.get?_eq_some_iff rfl).2 mem
      rw [get?_primaryOf, if_pos here] at found
      exact keyValue_ne_undefined _ _ (Option.some.inj found)
    exact ⟨(mem_primaryOf other).1 mem, other⟩
  · rintro ⟨mem, other⟩
    exact (mem_primaryOf other).2 mem

end Schema

namespace Record

variable {fns : Functions} {m : ModelClass} {primary data validate : Value} {r : Record}

theorem attributes_of_build (h : build fns m primary data validate true = .ok r) :
    ∃ values, r.attributes = ((r.schema.stripped values).mapValues fun _ v => Schema.defined v).insertAll
      (r.schema.primaryOf primary values).entries := by
  obtain ⟨values, scope, checked, _, _, _, hchecked, _, attributes⟩ := build_eq_ok h
  refine ⟨values, ?_⟩
  rw [attributes, Schema.mapValues_validated hchecked, if_pos rfl]

/-- An entry that is undeclared or undefined comes from the primary keys. -/
theorem mem_attributes (h : build fns m primary data validate true = .ok r) :
    ∃ values, ∀ e : Value × Value, r.schema.admits e.1 = false ∨ e.2 = .undefined →
      (e ∈ r.attributes.entries ↔ e ∈ (r.schema.primaryOf primary values).entries) := by
  obtain ⟨values, attributes⟩ := attributes_of_build h
  refine ⟨values, fun e odd => ?_⟩
  have clean : e ∉ ((r.schema.stripped values).mapValues fun _ v => Schema.defined v).entries := by
    intro mem
    obtain ⟨a, here, rfl⟩ := List.mem_map.1 mem
    rcases odd with undeclared | undefined
    · have declared : r.schema.admits a.1 := Schema.admits_of_mem_stripped here
      exact Bool.false_ne_true (undeclared.symm.trans declared)
    · exact Schema.defined_ne_undefined a.2 undefined
  rw [attributes, OrderedMap.mem_entries_insertAll_of_spelled (OrderedMap.distinct _)]
  · simp only [clean, false_and, or_false]
  · intro a mem b _ same
    obtain ⟨e, here, rfl⟩ := List.mem_map.1 mem
    obtain ⟨name, text, _⟩ := Schema.admits_iff.1 (Schema.admits_of_mem_stripped here)
    have isText : e.1.isText := by
      rw [text]
      rfl
    exact (Value.text_beq_iff isText b.1).1 same

theorem undeclared_mem_attributes (h : build fns m primary data validate true = .ok r)
    {e : Value × Value} (undeclared : r.schema.admits e.1 = false) :
    e ∈ r.attributes.entries ↔ e ∈ (r.schema.givenKeys primary).entries := by
  obtain ⟨values, mem⟩ := mem_attributes h
  rw [mem e (.inl undeclared), Schema.mem_primaryOf]
  intro key here same
  rw [Schema.admits_iff.2 ⟨key, same, .inr here⟩] at undeclared
  cases undeclared

theorem undefined_mem_attributes (h : build fns m primary data validate true = .ok r) {k : Value} :
    (k, .undefined) ∈ r.attributes.entries ↔
      (k, .undefined) ∈ (r.schema.givenKeys primary).entries ∧ ∀ key ∈ r.schema.primary, k ≠ .text key := by
  obtain ⟨values, mem⟩ := mem_attributes h
  rw [mem _ (.inr rfl), Schema.undefined_mem_primaryOf]

end Record

end RecordMapper
