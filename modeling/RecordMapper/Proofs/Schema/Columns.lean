import Mathlib.Data.List.Perm.Basic
import RecordMapper.Model.Catalog
import RecordMapper.Proofs.Except
import RecordMapper.Schema.Introspection

/-!
Which columns a table has. Columns are put together group by group, those of a database row by row and
those of its models model by model. Only what the groups name counts, neither their order nor their
repetition.
-/
namespace RecordMapper

namespace Columns

variable {columns : Columns} {table column t c : String} {more : List String}

def Has (columns : Columns) (table column : String) : Prop :=
  column ∈ (columns.get? table).getD []

def add (columns : Columns) (table : String) (more : List String) : Columns :=
  columns.insert table (((columns.get? table).getD []) ++ more)

def ofGroups (groups : List (String × List String)) : Columns :=
  groups.foldl (fun columns group => columns.add group.1 group.2) .empty

private theorem not_has_empty : ¬Has .empty table column := by
  unfold Has
  simp

theorem has_add : (columns.add table more).Has t c ↔ columns.Has t c ∨ t = table ∧ c ∈ more := by
  unfold Has add
  rw [OrderedMap.get?_insert]
  by_cases same : table = t
  · subst same
    simp
  · simp [same, Ne.symm same]

theorem contains_add : (columns.add table more).contains t ↔ columns.contains t ∨ t = table := by
  unfold add
  rw [OrderedMap.contains_eq_isSome, OrderedMap.contains_eq_isSome, OrderedMap.get?_insert]
  by_cases same : table = t
  · simp [same]
  · simp [same, Ne.symm same]

theorem contains_of_has (h : columns.Has table column) : columns.contains table := by
  rw [OrderedMap.contains_eq_isSome]
  unfold Has at h
  cases found : columns.get? table with
  | none =>
    rw [found] at h
    nomatch h
  | some known => rfl

variable {groups : List (String × List String)}

theorem has_foldl : (groups.foldl (fun columns group => columns.add group.1 group.2) columns).Has t c ↔
    columns.Has t c ∨ ∃ group ∈ groups, group.1 = t ∧ c ∈ group.2 := by
  induction groups generalizing columns with
  | nil => simp
  | cons group groups ih =>
    rw [List.foldl_cons, ih, has_add, or_assoc, List.exists_mem_cons_iff]
    rw [eq_comm (a := t)]

theorem contains_foldl :
    (groups.foldl (fun columns group => columns.add group.1 group.2) columns).contains t ↔
      columns.contains t ∨ ∃ group ∈ groups, group.1 = t := by
  induction groups generalizing columns with
  | nil => simp
  | cons group groups ih =>
    rw [List.foldl_cons, ih, contains_add, or_assoc, List.exists_mem_cons_iff]
    rw [eq_comm (a := t)]

theorem has_ofGroups : (ofGroups groups).Has t c ↔ ∃ group ∈ groups, group.1 = t ∧ c ∈ group.2 := by
  unfold ofGroups
  rw [has_foldl, or_iff_right not_has_empty]

theorem contains_ofGroups : (ofGroups groups).contains t ↔ ∃ group ∈ groups, group.1 = t := by
  unfold ofGroups
  rw [contains_foldl]
  simp

end Columns

/-! The columns of a database. -/

namespace Introspection

def told (row : String × String) : Bool := !excludedTables.contains row.1

theorem columns_eq (rows : List (String × String)) :
    columns rows = .ofGroups ((rows.filter told).map fun row => (row.1, [row.2])) := by
  unfold columns Columns.ofGroups
  rw [List.foldl_map]
  rfl

variable {rows : List (String × String)} {table column : String}

theorem has_columns :
    (columns rows).Has table column ↔ (table, column) ∈ rows ∧ table ∉ excludedTables := by
  rw [columns_eq, Columns.has_ofGroups]
  simp [told]

theorem contains_columns :
    (columns rows).contains table ↔ table ∉ excludedTables ∧ ∃ column, (table, column) ∈ rows := by
  rw [columns_eq, Columns.contains_ofGroups]
  simp [told, and_comm]

end Introspection

/-! The columns of models. -/

namespace Schema

private theorem mem_foldl_distinct {names known : List String} {name : String} :
    name ∈ names.foldl (fun cs c => if cs.contains c then cs else cs ++ [c]) known ↔
      name ∈ known ∨ name ∈ names := by
  induction names generalizing known with
  | nil => simp
  | cons first names ih =>
    rw [List.foldl_cons, ih, List.mem_cons]
    split
    · rename_i again
      have there : first ∈ known := by simpa using again
      constructor
      · rintro (h | h)
        · exact .inl h
        · exact .inr (.inr h)
      · rintro (h | rfl | h)
        · exact .inl h
        · exact .inl there
        · exact .inr h
    · rw [List.mem_append, List.mem_singleton, or_assoc]

private theorem mem_columns {s : Schema} {column : String} :
    column ∈ s.columns ↔ column ∈ s.primary ∨ column ∈ s.fieldNames := by
  unfold columns
  rw [mem_foldl_distinct, List.mem_append]
  simp

end Schema

namespace Catalog

def Uses (c : Catalog) (d : DatabaseId) (table : String) : Prop :=
  ∃ m ∈ (c.registry d).values, ∃ s, m.schema = .ok s ∧ s.table = table

def Declares (c : Catalog) (d : DatabaseId) (table column : String) : Prop :=
  ∃ m ∈ (c.registry d).values, ∃ s, m.schema = .ok s ∧ s.table = table ∧
    (column ∈ s.primary ∨ column ∈ s.fieldNames)

private theorem foldlM_addColumns (models : List ModelClass) (columns : Columns) :
    models.foldlM addColumns columns = (do
      let schemas ← models.mapM ModelClass.schema
      return schemas.foldl (fun columns s => columns.add s.table s.columns) columns) := by
  induction models generalizing columns with
  | nil => rfl
  | cons m models ih =>
    rw [List.foldlM_cons, List.mapM_cons]
    cases own : m.schema with
    | error e =>
      rw [addColumns, own]
      rfl
    | ok s =>
      rw [addColumns, own, ok_bind, pure_bind, ih]
      simp only [ok_bind, bind_assoc, pure_bind]
      rfl

private theorem mapM_schema (models : List ModelClass) :
    (∃ schemas, models.mapM ModelClass.schema = .ok schemas ∧ (∀ m ∈ models, ∃ s, m.schema = .ok s) ∧
      ∀ p : Schema → Prop, (∃ s ∈ schemas, p s) ↔ ∃ m ∈ models, ∃ s, m.schema = .ok s ∧ p s) ∨
    models.mapM ModelClass.schema = .error .noAttribute ∧ ∃ m ∈ models, m.schema = .error .noAttribute := by
  induction models with
  | nil => exact .inl ⟨[], rfl, nofun, by simp⟩
  | cons m models ih =>
    rw [List.mapM_cons]
    cases own : m.declared? with
    | none =>
      have own : m.schema = .error .noAttribute := by rw [ModelClass.schema, own]; rfl
      rw [own]
      exact .inr ⟨rfl, m, List.mem_cons_self .., own⟩
    | some declared =>
      have own : m.schema = .ok declared.schema := by rw [ModelClass.schema, own]; rfl
      rw [own, ok_bind]
      rcases ih with ⟨schemas, hschemas, all, each⟩ | ⟨missing, other, here, none⟩
      · left
        rw [hschemas]
        refine ⟨declared.schema :: schemas, rfl, ?_, fun p => ?_⟩
        · rw [List.forall_mem_cons]
          exact ⟨⟨_, own⟩, all⟩
        · rw [List.exists_mem_cons_iff, List.exists_mem_cons_iff, each, own]
          simp
      · right
        rw [missing]
        exact ⟨rfl, other, List.mem_cons_of_mem _ here, none⟩

/-- Either all registered models have a schema, and what they declare is expected, or it shows that one
of them has none. -/
theorem expectedColumns_cases (c : Catalog) (d : DatabaseId) :
    (∃ expected, c.expectedColumns d = .ok expected ∧
      (∀ m ∈ (c.registry d).values, ∃ s, m.schema = .ok s) ∧
      (∀ table, expected.contains table ↔ c.Uses d table) ∧
      ∀ table column, Columns.Has expected table column ↔ c.Declares d table column) ∨
    c.expectedColumns d = .error .noAttribute ∧
      ∃ m ∈ (c.registry d).values, m.schema = .error .noAttribute := by
  unfold expectedColumns
  rw [foldlM_addColumns]
  rcases mapM_schema (c.registry d).values with ⟨schemas, hschemas, all, each⟩ | ⟨missing, none⟩
  · left
    rw [hschemas]
    have groups : schemas.foldl (fun columns s => columns.add s.table s.columns) .empty =
        Columns.ofGroups (schemas.map fun s => (s.table, s.columns)) := by
      rw [Columns.ofGroups, List.foldl_map]
    refine ⟨_, congrArg Except.ok groups, all, fun table => ?_, fun table column => ?_⟩
    · rw [Columns.contains_ofGroups]
      simp only [List.mem_map, exists_exists_and_eq_and]
      exact each fun s => s.table = table
    · rw [Columns.has_ofGroups]
      simp only [List.mem_map, exists_exists_and_eq_and, Schema.mem_columns]
      exact each fun s => s.table = table ∧ (column ∈ s.primary ∨ column ∈ s.fieldNames)
  · right
    rw [missing]
    exact ⟨rfl, none⟩

theorem expectedColumns_eq_ok {c : Catalog} {d : DatabaseId} {expected : Columns}
    (h : c.expectedColumns d = .ok expected) :
    (∀ table, expected.contains table ↔ c.Uses d table) ∧
      ∀ table column, Columns.Has expected table column ↔ c.Declares d table column := by
  rcases expectedColumns_cases c d with ⟨_, own, _, declared⟩ | ⟨missing, _⟩
  · obtain rfl := Except.ok.inj (h.symm.trans own)
    exact declared
  · rw [missing] at h
    cases h

end Catalog

end RecordMapper
