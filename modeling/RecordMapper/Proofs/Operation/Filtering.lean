import Mathlib.Data.List.Nodup
import RecordMapper.Proofs.Operation.Recognition

/-!
What becomes of the entries of a filter. A search asks for the conditions of all entries, each on the
column with its table. Two keys that name the same column, one of them with the table, are one
condition: that of the later value.
-/
namespace RecordMapper

open Sql

abbrev Distinct (vs : List Value) : Prop := vs.Pairwise fun a b => (a == b) = false

namespace Operation

def conditionsOf (columns values : List Value) : List (List Piece) :=
  List.zipWith (fun column v => (Condition.ofValue v).pieces column.shown) columns values

section

variable {columns values : List Value}

theorem pairwise_zip (same : columns.length = values.length) :
    ((columns.zip values).Pairwise fun a b => (a.1 == b.1) = false) ↔ Distinct columns := by
  have keys : (columns.zip values).map (·.1) = columns := List.map_fst_zip (Nat.le_of_eq same)
  have pairs := @List.pairwise_map _ _ (·.1) (fun a b => (a == b) = false) (columns.zip values)
  rw [keys] at pairs
  exact pairs.symm

private theorem length_conjuncts (same : columns.length = values.length) :
    (conjuncts (.ofEntries (columns.zip values))).length = values.length ↔ Distinct columns := by
  have count := @OrderedMap.length_insertAll_eq_iff _ _ _ (.empty : Mapping) (columns.zip values)
  rw [OrderedMap.entries_empty, List.nil_append, pairwise_zip same, List.length_zip, same,
    Nat.min_self, List.length_nil, Nat.zero_add] at count
  rw [conjuncts, List.length_map]
  exact count

private theorem conjuncts_zip (same : columns.length = values.length) (distinct : Distinct columns) :
    conjuncts (.ofEntries (columns.zip values)) = conditionsOf columns values := by
  have entries : (OrderedMap.ofEntries (columns.zip values) : Mapping).entries = columns.zip values :=
    OrderedMap.entries_insertAll (m := .empty) ((pairwise_zip same).2 distinct)
  rw [conjuncts, entries, List.map_zip_eq_zipWith]
  rfl

end

private theorem qualifiedFilter_eq_ok {table : String} {filter conditions : Mapping}
    (h : qualifiedFilter table filter.toValue = .ok conditions) :
    ∃ columns, List.Forall₂ (fun key column => qualified table key = .ok column) filter.keys columns ∧
      conditions = .ofEntries (columns.zip filter.values) := by
  rw [qualifiedFilter, orEmpty_toValue] at h
  obtain ⟨entries, hentries, h⟩ := bind_eq_ok.1 h
  obtain rfl := pure_eq_ok.1 h
  have each : List.Forall₂ (fun e x => qualified table e.1 = .ok x.1 ∧ x.2 = e.2) filter.entries
      entries := by
    refine (mapM_eq_ok.1 hentries).imp fun e x hx => ?_
    obtain ⟨column, hcolumn, hx⟩ := bind_eq_ok.1 hx
    obtain rfl := pure_eq_ok.1 hx
    exact ⟨hcolumn, rfl⟩
  refine ⟨entries.map (·.1), ?_, congrArg _ (List.zip_of_prod rfl ?_)⟩
  · rw [OrderedMap.keys, List.forall₂_map_left_iff, List.forall₂_map_right_iff]
    exact each.imp fun _ _ h => h.1
  · exact map_eq_of_forall₂ each fun _ _ _ h => h.2

/-! The columns of texts. -/

section

variable {table : String} {columns : List String}

private theorem qualifiedName_inj {a b : String} (same : qualifiedName table a = qualifiedName table b) :
    a = b ∨ '.' ∉ a.toList ∧ table ++ "." ++ a = b ∨ '.' ∉ b.toList ∧ table ++ "." ++ b = a := by
  unfold qualifiedName at same
  split at same <;> split at same
  · exact .inl same
  · rename_i b_bare
    exact .inr (.inr ⟨b_bare, same.symm⟩)
  · rename_i a_bare _
    exact .inr (.inl ⟨a_bare, same⟩)
  · exact .inl (String.append_right_inj _ |>.1 same)

private theorem nodup_qualified_iff (distinct : columns.Nodup) :
    (columns.map (qualifiedName table)).Nodup ↔
      ∀ column ∈ columns, '.' ∉ column.toList → table ++ "." ++ column ∉ columns := by
  rw [List.nodup_map_iff_inj_on distinct]
  constructor
  · intro inj column here bare full
    have dotted : '.' ∈ (table ++ "." ++ column).toList := by simp
    have same : qualifiedName table column = qualifiedName table (table ++ "." ++ column) := by
      rw [qualifiedName, qualifiedName, if_neg bare, if_pos dotted]
    exact bare (inj column here _ full same ▸ dotted)
  · intro apart a ha b hb same
    rcases qualifiedName_inj same with same | ⟨bare, rfl⟩ | ⟨bare, rfl⟩
    · exact same
    · exact absurd hb (apart a ha bare)
    · exact absurd ha (apart b hb bare)

theorem distinct_texts : Distinct (columns.map .text) ↔ columns.Nodup := by
  rw [Distinct, List.pairwise_map]
  simp [List.Nodup]

end

private theorem columns_of_texts {table : String} {names : List String} {columns : List Value}
    (each : List.Forall₂ (fun key column => qualified table key = .ok column) (names.map .text) columns) :
    columns = names.map fun name => .text (qualifiedName table name) := by
  rw [List.forall₂_map_left_iff] at each
  have same := map_eq_of_forall₂ (f := id) (g := fun name => .text (qualifiedName table name)) each
    fun name _ column h => Except.ok.inj (h.symm.trans (qualified_text table name))
  rwa [List.map_id] at same

/-- A search asks for what the entries of its filter ask for, each on the column with its table, exactly
if no two of these columns are equal; else it asks for less. So it is among texts unless a column is
named twice, without its table and with it. -/
theorem conditions_of_findMany {κ : Type} {fns : Functions} {replies : Replies κ} {m : ModelClass}
    {filter : Mapping} {search : Search} {route : Route κ} {c : Catalog} {sent : Target κ × Statement}
    (h : sent ∈ (observe replies (findMany fns m filter.toValue search route) c).2) :
    ∃ schema columns, m.schema = .ok schema ∧
      List.Forall₂ (fun key column => qualified schema.table key = .ok column) filter.keys columns ∧
      (∃ selected joins clauses, (Select.mk selected (.table schema.table) joins clauses).render = .ok sent.2 ∧
        clauses.filter = .ofEntries (columns.zip filter.values)) ∧
      ((conjuncts (.ofEntries (columns.zip filter.values))).length = filter.size ↔ Distinct columns) ∧
      (Distinct columns →
        conjuncts (.ofEntries (columns.zip filter.values)) = conditionsOf columns filter.values) ∧
      ∀ names : List String, filter.keys = names.map .text →
        columns = names.map (fun name => .text (qualifiedName schema.table name)) ∧
        (Distinct columns ↔
          ∀ name ∈ names, '.' ∉ name.toList → schema.table ++ "." ++ name ∉ names) := by
  obtain ⟨request, hrequest, rfl⟩ := mem_observe h
  obtain ⟨schema, _, conditions, selected, joined, clauses, hschema, _, hconditions, _, hfilter, hstatement⟩ :=
    query_of_findMany hrequest
  obtain ⟨columns, each, rfl⟩ := qualifiedFilter_eq_ok hconditions
  have same : columns.length = filter.values.length := by
    rw [← each.length_eq, OrderedMap.keys, OrderedMap.values, List.length_map, List.length_map]
  have size : filter.values.length = filter.size := List.length_map _
  refine ⟨schema, columns, hschema, each, ⟨_, _, clauses, hstatement, hfilter⟩,
    size ▸ length_conjuncts same, conjuncts_zip same, fun names texts => ?_⟩
  rw [texts] at each
  have distinct : names.Nodup := by
    rw [← distinct_texts, ← texts, OrderedMap.keys]
    exact List.pairwise_map.2 filter.distinct
  have known := columns_of_texts each
  have alike : Distinct columns ↔ (names.map (qualifiedName schema.table)).Nodup := by
    rw [← distinct_texts, List.map_map, known]
    rfl
  exact ⟨known, alike.trans (nodup_qualified_iff distinct)⟩

theorem conditions_of_findMany_user :
    let filter : Mapping :=
      .ofEntries [(.text "name", .text "ada"), (.text "users.age", .null), (.text "id", .list [.int 1, .int 2])]
    let s : Statement := ⟨"SELECT users.* FROM users WHERE users.name = :p_0 AND users.age IS NULL AND " ++
      "users.id IN (:p_1, :p_2)", [.text "ada", .int 1, .int 2]⟩
    (observe silent (findMany Function.catalogue (user users) filter.toValue {} (.given ())) knownUsers).2 =
        [(.given (), s)] ∧
      ∃ columns, columns = [.text "users.name", .text "users.age", .text "users.id"] ∧
        conjuncts (.ofEntries (columns.zip filter.values)) = conditionsOf columns filter.values := by
  intro filter s
  have sends : (observe silent (findMany Function.catalogue (user users) filter.toValue {} (.given ()))
      knownUsers).2 = [(.given (), s)] := rfl
  have sent : (.given (), s) ∈ (observe silent (findMany Function.catalogue (user users) filter.toValue {}
      (.given ())) knownUsers).2 := by
    rw [sends]
    exact List.mem_singleton_self _
  obtain ⟨schema, columns, known, _, _, _, kept, texts⟩ := conditions_of_findMany sent
  obtain rfl : users = schema := Except.ok.inj known
  obtain ⟨named, distinct⟩ := texts ["name", "users.age", "id"] rfl
  exact ⟨sends, columns, named, kept (distinct.2 (by decide))⟩

/-- Two entries are given, and the users that the second one asks for are found. -/
theorem condition_lost :
    let filter : Mapping := .ofEntries [(.text "id", .int 1), (.text "users.id", .int 2)]
    filter.size = 2 ∧
      (observe silent (findMany Function.catalogue (user users) filter.toValue {} (.given ())) knownUsers).2 =
        [(.given (), ⟨"SELECT users.* FROM users WHERE users.id = :p_0", [.int 2]⟩)] :=
  ⟨rfl, rfl⟩

end Operation

end RecordMapper
