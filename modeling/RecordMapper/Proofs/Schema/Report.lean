import RecordMapper.Proofs.Record.Columns
import RecordMapper.Proofs.Schema.Columns

/-!
What a comparison of declared with live columns reports. It lists exactly what is missing and what is not
declared, in strictly increasing order, and is the same whatever the order and the repetition in which
live columns are read and models registered.
-/
namespace RecordMapper

section

variable {xs ys : List String}

theorem mem_sortTexts {x : String} : x ∈ sortTexts xs ↔ x ∈ xs :=
  (List.mergeSort_perm ..).mem_iff

theorem pairwise_sortTexts (distinct : xs.Nodup) : (sortTexts xs).Pairwise (· < ·) := by
  have sorted : (sortTexts xs).Pairwise fun a b => decide (a ≤ b) = true := by
    apply List.pairwise_mergeSort
    · intro a b c hab hbc
      exact decide_eq_true (String.le_trans (of_decide_eq_true hab) (of_decide_eq_true hbc))
    · intro a b
      simpa using String.le_total a b
  refine sorted.imp₂ (fun a b le ne => ?_) ((List.mergeSort_perm ..).nodup_iff.2 distinct)
  rw [← String.not_le]
  exact fun ge => ne (String.le_antisymm (of_decide_eq_true le) ge)

theorem mem_distinctTexts {x : String} : x ∈ distinctTexts xs ↔ x ∈ xs := by
  unfold distinctTexts
  rw [mem_sortTexts, List.mem_eraseDups]

theorem pairwise_distinctTexts (xs : List String) : (distinctTexts xs).Pairwise (· < ·) :=
  pairwise_sortTexts (nodup_eraseDups xs)

theorem nodup_of_pairwise_lt (h : xs.Pairwise (· < ·)) : xs.Nodup := by
  apply h.imp
  intro a b lt same
  subst same
  exact String.lt_irrefl a lt

theorem eq_of_pairwise_lt (hx : xs.Pairwise (· < ·)) (hy : ys.Pairwise (· < ·))
    (same : ∀ x, x ∈ xs ↔ x ∈ ys) : xs = ys := by
  have asymm (a b : String) (_ : a ∈ xs) (_ : b ∈ ys) (hab : a < b) (hba : b < a) : a = b :=
    absurd hba (String.lt_asymm hab)
  exact List.Perm.eq_of_pairwise asymm hx hy
    ((List.perm_ext_iff_of_nodup (nodup_of_pairwise_lt hx) (nodup_of_pairwise_lt hy)).2 same)

private theorem distinctTexts_congr (same : ∀ x, x ∈ xs ↔ x ∈ ys) : distinctTexts xs = distinctTexts ys := by
  apply eq_of_pairwise_lt (pairwise_distinctTexts xs) (pairwise_distinctTexts ys)
  intro x
  rw [mem_distinctTexts, mem_distinctTexts, same]

end

def MissingColumn.Before (a b : MissingColumn) : Prop :=
  a.table < b.table ∨ a.table = b.table ∧ a.column < b.column

namespace Columns

/-- All tables and columns of the second are in the first. -/
def Covers (actual expected : Columns) : Prop :=
  ∀ table, expected.contains table →
    actual.contains table ∧ ∀ column, expected.Has table column → actual.Has table column

/-- Both have the same tables and the same columns, maybe in another order. -/
structure Same (columns columns' : Columns) : Prop where
  tables : ∀ table, columns.contains table ↔ columns'.contains table
  columns : ∀ table column, columns.Has table column ↔ columns'.Has table column

end Columns

namespace DriftReport

variable {actual actual' expected expected' : Columns} {t c : String}

theorem mem_missingTables :
    t ∈ (compare actual expected).missingTables ↔ expected.contains t ∧ ¬actual.contains t := by
  change t ∈ distinctTexts _ ↔ _
  rw [mem_distinctTexts, List.mem_filter, OrderedMap.mem_keys, Bool.not_eq_true', Bool.not_eq_true]

theorem mem_extraTables :
    t ∈ (compare actual expected).extraTables ↔ actual.contains t ∧ ¬expected.contains t := by
  change t ∈ distinctTexts _ ↔ _
  rw [mem_distinctTexts, List.mem_filter, OrderedMap.mem_keys, Bool.not_eq_true', Bool.not_eq_true]

theorem pairwise_missingTables (actual expected : Columns) :
    (compare actual expected).missingTables.Pairwise (· < ·) := pairwise_distinctTexts _

theorem pairwise_extraTables (actual expected : Columns) :
    (compare actual expected).extraTables.Pairwise (· < ·) := pairwise_distinctTexts _

theorem mem_lacking {live declared : List String} :
    c ∈ lacking live declared ↔ c ∈ declared ∧ c ∉ live := by
  unfold lacking
  rw [mem_distinctTexts, List.mem_filter]
  simp

def common (actual expected : Columns) : List String :=
  distinctTexts (expected.keys.filter actual.contains)

theorem pairwise_common (actual expected : Columns) : (common actual expected).Pairwise (· < ·) :=
  pairwise_distinctTexts _

theorem mem_common : t ∈ common actual expected ↔ expected.contains t ∧ actual.contains t := by
  unfold common
  rw [mem_distinctTexts, List.mem_filter, OrderedMap.mem_keys]

def lackingOf (actual expected : Columns) (table : String) : List MissingColumn :=
  (lacking ((actual.get? table).getD []) ((expected.get? table).getD [])).map (missing table)

theorem missingColumns_eq : (compare actual expected).missingColumns =
    (common actual expected).flatMap (lackingOf actual expected) := rfl

theorem mem_lackingOf {m : MissingColumn} : m ∈ lackingOf actual expected t ↔
    ∃ c, m = missing t c ∧ expected.Has t c ∧ ¬actual.Has t c := by
  unfold lackingOf
  rw [List.mem_map]
  simp only [mem_lacking]
  constructor
  · rintro ⟨c, ⟨declared, absent⟩, rfl⟩
    exact ⟨c, rfl, declared, absent⟩
  · rintro ⟨c, rfl, declared, absent⟩
    exact ⟨c, ⟨declared, absent⟩, rfl⟩

theorem mem_missingColumns {m : MissingColumn} : m ∈ (compare actual expected).missingColumns ↔
    ∃ t c, m = missing t c ∧ expected.contains t ∧ actual.contains t ∧ expected.Has t c ∧
      ¬actual.Has t c := by
  rw [missingColumns_eq, List.mem_flatMap]
  simp only [mem_common, mem_lackingOf]
  constructor
  · rintro ⟨t, ⟨declared, live⟩, c, rfl, column⟩
    exact ⟨t, c, rfl, declared, live, column⟩
  · rintro ⟨t, c, rfl, declared, live, column⟩
    exact ⟨t, ⟨declared, live⟩, c, rfl, column⟩

theorem pairwise_missingColumns : (compare actual expected).missingColumns.Pairwise MissingColumn.Before := by
  rw [missingColumns_eq, List.pairwise_flatMap]
  constructor
  · intro t _
    unfold lackingOf lacking
    rw [List.pairwise_map]
    exact (pairwise_distinctTexts _).imp fun lt => .inr ⟨rfl, lt⟩
  · apply (pairwise_common ..).imp
    intro t t' lt a ha b hb
    obtain ⟨c, rfl, _⟩ := mem_lackingOf.1 ha
    obtain ⟨c', rfl, _⟩ := mem_lackingOf.1 hb
    exact .inl lt

theorem valid_iff_errorCount : (compare actual expected).valid ↔ (compare actual expected).errorCount = 0 := by
  change (List.isEmpty _ && List.isEmpty _) = true ↔ _
  rw [Bool.and_eq_true, List.isEmpty_iff, List.isEmpty_iff]
  unfold errorCount
  rw [Nat.add_eq_zero_iff, List.length_eq_zero_iff, List.length_eq_zero_iff]
  rfl

theorem valid_iff : (compare actual expected).valid ↔ actual.Covers expected := by
  rw [valid_iff_errorCount, errorCount, Nat.add_eq_zero_iff, List.length_eq_zero_iff,
    List.length_eq_zero_iff, List.eq_nil_iff_forall_not_mem, List.eq_nil_iff_forall_not_mem]
  simp only [mem_missingTables, mem_missingColumns]
  constructor
  · rintro ⟨tables, columns⟩ t declared
    have live : actual.contains t := by
      by_contra absent
      exact tables t ⟨declared, absent⟩
    refine ⟨live, fun c column => ?_⟩
    by_contra absent
    exact columns _ ⟨t, c, rfl, declared, live, column, absent⟩
  · intro covers
    constructor
    · rintro t ⟨declared, absent⟩
      exact absent (covers t declared).1
    · rintro _ ⟨t, c, rfl, declared, live, column, absent⟩
      exact absent ((covers t declared).2 c column)

theorem compare_congr (live : actual.Same actual') (declared : expected.Same expected') :
    compare actual expected = compare actual' expected' := by
  have tables : (compare actual expected).missingTables = (compare actual' expected').missingTables := by
    apply eq_of_pairwise_lt (pairwise_missingTables ..) (pairwise_missingTables ..)
    intro t
    rw [mem_missingTables, mem_missingTables, declared.tables, live.tables]
  have extra : (compare actual expected).extraTables = (compare actual' expected').extraTables := by
    apply eq_of_pairwise_lt (pairwise_extraTables ..) (pairwise_extraTables ..)
    intro t
    rw [mem_extraTables, mem_extraTables, declared.tables, live.tables]
  have columns : (compare actual expected).missingColumns =
      (compare actual' expected').missingColumns := by
    rw [missingColumns_eq, missingColumns_eq]
    have each : lackingOf actual expected = lackingOf actual' expected' := by
      funext t
      unfold lackingOf lacking
      congr 1
      apply distinctTexts_congr
      intro c
      have here := live.columns t c
      have there := declared.columns t c
      unfold Columns.Has at here there
      simp [here, there]
    have shared : common actual expected = common actual' expected' := by
      apply eq_of_pairwise_lt (pairwise_common ..) (pairwise_common ..)
      intro t
      rw [mem_common, mem_common, declared.tables, live.tables]
    rw [each, shared]
  have valid : (compare actual expected).valid = (compare actual' expected').valid := by
    rw [Bool.eq_iff_iff, valid_iff_errorCount, valid_iff_errorCount, errorCount, errorCount, tables,
      columns]
  cases left : compare actual expected
  cases right : compare actual' expected'
  rw [left, right] at tables extra columns valid
  congr

/-- What is reported is what there is to report, in order and without repetition. -/
structure Exact (actual expected : Columns) (r : DriftReport) : Prop where
  missingTables : ∀ t, t ∈ r.missingTables ↔ expected.contains t ∧ ¬actual.contains t
  extraTables : ∀ t, t ∈ r.extraTables ↔ actual.contains t ∧ ¬expected.contains t
  missingColumns : ∀ m, m ∈ r.missingColumns ↔ ∃ t c, m = missing t c ∧ expected.contains t ∧
    actual.contains t ∧ expected.Has t c ∧ ¬actual.Has t c
  missingTablesIncrease : r.missingTables.Pairwise (· < ·)
  extraTablesIncrease : r.extraTables.Pairwise (· < ·)
  missingColumnsIncrease : r.missingColumns.Pairwise MissingColumn.Before
  valid : r.valid ↔ actual.Covers expected
  errorCount : r.errorCount = 0 ↔ actual.Covers expected

private theorem exact_compare (actual expected : Columns) : Exact actual expected (compare actual expected) where
  missingTables _ := mem_missingTables
  extraTables _ := mem_extraTables
  missingColumns _ := mem_missingColumns
  missingTablesIncrease := pairwise_missingTables ..
  extraTablesIncrease := pairwise_extraTables ..
  missingColumnsIncrease := pairwise_missingColumns
  valid := valid_iff
  errorCount := valid_iff_errorCount.symm.trans valid_iff

end DriftReport

theorem Columns.Covers.trans {a b c : Columns} (hab : a.Covers b) (hbc : b.Covers c) : a.Covers c := by
  intro t declared
  obtain ⟨known, columns⟩ := hbc t declared
  obtain ⟨live, columns'⟩ := hab t known
  exact ⟨live, fun c column => columns' c (columns c column)⟩

/-! Registration. -/

theorem OrderedMap.mem_values {κ α : Type} [BEq κ] [LawfulBEq κ] {m : OrderedMap κ α} {v : α} :
    v ∈ m.values ↔ ∃ k, m.get? k = some v := by
  simp [values, ← mem_entries_iff]

namespace Catalog

def registerAll (c : Catalog) (d : DatabaseId) (classes : List (String × ModelClass)) : Catalog :=
  classes.foldl (fun c named => (register d named.1 named.2 c).2) c

private theorem registry_registerAll (c : Catalog) (d : DatabaseId) (classes : List (String × ModelClass)) :
    (c.registerAll d classes).registry d = (c.registry d).insertAll classes := by
  induction classes generalizing c with
  | nil => rfl
  | cons named classes ih =>
    change ((register d named.1 named.2 c).2.registerAll d classes).registry d = _
    have entered : (register d named.1 named.2 c).2 = c.enter d named.1 named.2 := by
      rw [register, Action.bind_apply, Action.modify_apply]
      cases named.2.schema with
      | error e => rfl
      | ok s => rfl
    have here : (c.enter d named.1 named.2).registry d = (c.registry d).insert named.1 named.2 :=
      if_pos rfl
    rw [ih, entered, here, OrderedMap.insertAll_cons]

/-- The last of the classes with a name. -/
def lastNamed (classes : List (String × ModelClass)) (name : String) : Option ModelClass :=
  (classes.reverse.find? (·.1 == name)).map (·.2)

private theorem get?_insertAll_classes (models : OrderedMap String ModelClass)
    (classes : List (String × ModelClass)) (name : String) :
    (models.insertAll classes).get? name = (lastNamed classes name).or (models.get? name) := by
  induction classes generalizing models with
  | nil => rfl
  | cons named classes ih =>
    rw [OrderedMap.insertAll_cons, ih, lastNamed, lastNamed, List.reverse_cons, List.find?_append,
      OrderedMap.get?_insert]
    cases classes.reverse.find? (·.1 == name) with
    | some later => rfl
    | none =>
      by_cases same : named.1 = name
      · simp [same]
      · simp [same]

theorem lastNamed_eq_some {classes : List (String × ModelClass)}
    (single : ∀ a ∈ classes, ∀ b ∈ classes, a.1 = b.1 → a = b) {name : String} {m : ModelClass} :
    lastNamed classes name = some m ↔ (name, m) ∈ classes := by
  rw [lastNamed, Option.map_eq_some_iff]
  constructor
  · rintro ⟨named, found, rfl⟩
    have same : named.1 = name := by simpa using List.find?_some found
    exact same ▸ List.mem_reverse.1 (List.mem_of_find?_eq_some found)
  · intro here
    cases found : classes.reverse.find? (·.1 == name) with
    | none =>
      have other := List.find?_eq_none.1 found (name, m) (List.mem_reverse.2 here)
      simp at other
    | some named =>
      have same : named.1 = name := by simpa using List.find?_some found
      obtain rfl := single named (List.mem_reverse.1 (List.mem_of_find?_eq_some found)) _ here same
      exact ⟨_, rfl, rfl⟩

private theorem lastNamed_perm {classes classes' : List (String × ModelClass)} (order : classes.Perm classes')
    (single : ∀ a ∈ classes, ∀ b ∈ classes, a.1 = b.1 → a = b) (name : String) :
    lastNamed classes name = lastNamed classes' name := by
  have single' : ∀ a ∈ classes', ∀ b ∈ classes', a.1 = b.1 → a = b := by
    simpa only [order.mem_iff] using single
  ext m
  rw [lastNamed_eq_some single, lastNamed_eq_some single', order.mem_iff]

/-- The report on the columns of a database, as far as they are known from rows. -/
def drift (c : Catalog) (d : DatabaseId) (rows : List (String × String)) : Except Error DriftReport :=
  (c.expectedColumns d).map (.compare (Introspection.columns rows))

theorem drift_congr {c c' : Catalog} {d : DatabaseId} {rows rows' : List (String × String)}
    (read : ∀ row, row ∈ rows ↔ row ∈ rows')
    (registered : ∀ m, m ∈ (c.registry d).values ↔ m ∈ (c'.registry d).values) :
    c.drift d rows = c'.drift d rows' := by
  have live : (Introspection.columns rows).Same (Introspection.columns rows') := by
    constructor
    · intro table
      simp only [Introspection.contains_columns, read]
    · intro table column
      simp only [Introspection.has_columns, read]
  have uses (table : String) : c.Uses d table ↔ c'.Uses d table := by
    simp only [Uses, registered]
  have declares (table column : String) : c.Declares d table column ↔ c'.Declares d table column := by
    simp only [Declares, registered]
  unfold drift
  rcases expectedColumns_cases c d with ⟨expected, own, all, tables, columns⟩ | ⟨missing, m, here, none⟩
  · rcases expectedColumns_cases c' d with ⟨expected', own', _, tables', columns'⟩ | ⟨_, m, here, none⟩
    · have declared : expected.Same expected' := by
        constructor
        · intro table
          rw [tables, tables', uses]
        · intro table column
          rw [columns, columns', declares]
      rw [own, own']
      exact congrArg Except.ok (DriftReport.compare_congr live declared)
    · obtain ⟨s, found⟩ := all m ((registered m).2 here)
      rw [none] at found
      cases found
  · rcases expectedColumns_cases c' d with ⟨_, _, all, _⟩ | ⟨missing', _⟩
    · obtain ⟨s, found⟩ := all m ((registered m).1 here)
      rw [none] at found
      cases found
    · rw [missing, missing']
      rfl

theorem drift_registerAll_congr {classes classes' : List (String × ModelClass)}
    (last : ∀ name, lastNamed classes name = lastNamed classes' name) (c : Catalog) (d : DatabaseId)
    (rows : List (String × String)) :
    (c.registerAll d classes).drift d rows = (c.registerAll d classes').drift d rows := by
  apply drift_congr (fun _ => Iff.rfl)
  intro m
  simp only [registry_registerAll, OrderedMap.mem_values, get?_insertAll_classes, last]

/-- The report on the columns of a database. It lists exactly what is missing or not declared, in order
and without repetition, and finds no fault exactly if every declared table and column is live; more live
columns never make a fault. It depends on which rows are read and which classes are registered in the end,
neither on their order nor on their repetition. Of the classes that are registered under one name the last
one stays, so the order of registration matters only if a name is registered for two classes. -/
theorem drift_exact_and_canonical :
    (∀ actual expected : Columns, DriftReport.Exact actual expected (.compare actual expected)) ∧
    (∀ actual actual' expected : Columns, actual'.Covers actual →
      (DriftReport.compare actual expected).valid → (DriftReport.compare actual' expected).valid) ∧
    (∀ (c c' : Catalog) (d : DatabaseId) (rows rows' : List (String × String)),
      (∀ row, row ∈ rows ↔ row ∈ rows') →
      (∀ m, m ∈ (c.registry d).values ↔ m ∈ (c'.registry d).values) →
      c.drift d rows = c'.drift d rows') ∧
    (∀ (c : Catalog) (d : DatabaseId) (rows : List (String × String))
      (classes classes' : List (String × ModelClass)),
      (∀ name, lastNamed classes name = lastNamed classes' name) →
      (c.registerAll d classes).drift d rows = (c.registerAll d classes').drift d rows) ∧
    ∀ (c : Catalog) (d : DatabaseId) (rows : List (String × String))
      (classes classes' : List (String × ModelClass)), classes.Perm classes' →
      (∀ a ∈ classes, ∀ b ∈ classes, a.1 = b.1 → a = b) →
      (c.registerAll d classes).drift d rows = (c.registerAll d classes').drift d rows := by
  refine ⟨DriftReport.exact_compare, ?_, ?_, ?_, ?_⟩
  · intro actual actual' expected more valid
    rw [DriftReport.valid_iff] at valid ⊢
    exact more.trans valid
  · intro c c' d rows rows' read registered
    exact drift_congr read registered
  · intro c d rows classes classes' last
    exact drift_registerAll_congr last c d rows
  · intro c d rows classes classes' order single
    exact drift_registerAll_congr (lastNamed_perm order single) c d rows

def namedUsers : Schema := { users with primary := ["name"], primary_ne := List.cons_ne_nil _ _ }

def people : Schema := { users with table := "people", table_ne := by decide }

theorem drift_exact_and_canonical_users :
    let rows := [("posts", "id"), ("users", "id")]
    let rows' := [("users", "id"), ("users", "id"), ("posts", "id")]
    let classes := [("User", user users), ("Name", user namedUsers)]
    let report : DriftReport := ⟨false, [], [DriftReport.missing "users" "name"], ["posts"]⟩
    (∀ row, row ∈ rows ↔ row ∈ rows') ∧ classes.Perm classes.reverse ∧
      (∀ a ∈ classes, ∀ b ∈ classes, a.1 = b.1 → a = b) ∧
      (∀ name, lastNamed (("User", user people) :: classes) name = lastNamed classes name) ∧
      (registerAll {} 0 classes).drift 0 rows = .ok report ∧
      (registerAll {} 0 classes).drift 0 rows' = .ok report ∧
      (registerAll {} 0 (("User", user people) :: classes)).drift 0 rows = .ok report ∧
      (registerAll {} 0 classes.reverse).drift 0 rows = .ok report := by
  intro rows rows' classes report
  have read : ∀ row, row ∈ rows ↔ row ∈ rows' := by
    intro row
    simp only [rows, rows', List.mem_cons, List.not_mem_nil, or_false]
    grind
  have order : classes.Perm classes.reverse := (List.reverse_perm classes).symm
  have single : ∀ a ∈ classes, ∀ b ∈ classes, a.1 = b.1 → a = b := by
    simp [classes]
  have last : ∀ name, lastNamed (("User", user people) :: classes) name = lastNamed classes name := by
    intro name
    by_cases same : name = "User"
    · rw [same]
      rfl
    · have other : ("User" == name) = false := beq_false_of_ne (Ne.symm same)
      simp [lastNamed, classes, List.find?_cons, other]
  obtain ⟨_, _, congruent, replaced, permuted⟩ := drift_exact_and_canonical
  have found : (registerAll {} 0 classes).drift 0 rows = .ok report := by
    have expected : (registerAll {} 0 classes).expectedColumns 0 =
        .ok (.ofGroups [("users", ["id", "name"]), ("users", ["name"])]) := rfl
    rw [drift, expected]
    exact congrArg Except.ok (by decide +kernel)
  refine ⟨read, order, single, last, found, ?_, ?_, ?_⟩
  · rw [← congruent _ _ 0 rows rows' read fun _ => Iff.rfl, found]
  · rw [replaced {} 0 rows _ classes last, found]
  · rw [← permuted {} 0 rows classes _ order single, found]

/-- Two classes are registered under one name, and the report is about the later one. -/
theorem registration_order_shown :
    let rows := [("users", "id"), ("users", "name")]
    let classes := [("User", user people), ("User", user users)]
    classes.Perm classes.reverse ∧
      (registerAll {} 0 classes).drift 0 rows = .ok ⟨true, [], [], []⟩ ∧
      (registerAll {} 0 classes.reverse).drift 0 rows = .ok ⟨false, ["people"], [], ["users"]⟩ := by
  intro rows classes
  have last : (registerAll {} 0 classes).expectedColumns 0 = .ok (.ofGroups [("users", ["id", "name"])]) := rfl
  have first : (registerAll {} 0 classes.reverse).expectedColumns 0 =
      .ok (.ofGroups [("people", ["id", "name"])]) := rfl
  refine ⟨(List.reverse_perm classes).symm, ?_, ?_⟩
  · rw [drift, last]
    exact congrArg Except.ok (by decide +kernel)
  · rw [drift, first]
    exact congrArg Except.ok (by decide +kernel)

end Catalog

end RecordMapper
