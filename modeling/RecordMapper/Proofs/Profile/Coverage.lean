import RecordMapper.Profile.Connect
import RecordMapper.Proofs.Schema.Report

/-!
Whether the check of a connection finds everything. It succeeds exactly if the rows that are read have
every column that a registered model declares. But rows on tables of the database system are left out
even if a model is on such a table, which is then missing although it is there.
-/
namespace RecordMapper

open Introspection

namespace Catalog

variable {c : Catalog} {d : DatabaseId} {expected : Columns} {rows : List (String × String)}
  {table : String}

theorem uses_iff : c.Uses d table ↔ ∃ column, c.Declares d table column := by
  constructor
  · rintro ⟨m, here, s, own, on⟩
    exact ⟨s.key, m, here, s, own, on, .inl (List.head_mem s.primary_ne)⟩
  · rintro ⟨column, m, here, s, own, on, _⟩
    exact ⟨m, here, s, own, on⟩

theorem valid_iff_covered (h : c.expectedColumns d = .ok expected) :
    (DriftReport.compare (columns rows) expected).valid ↔
      ∀ table column, c.Declares d table column → (table, column) ∈ rows ∧ table ∉ excludedTables := by
  obtain ⟨tables, declares⟩ := expectedColumns_eq_ok h
  rw [DriftReport.valid_iff]
  constructor
  · intro covers table column declared
    obtain ⟨_, all⟩ := covers table ((tables table).2 (uses_iff.2 ⟨column, declared⟩))
    exact has_columns.1 (all column ((declares table column).2 declared))
  · intro covered table known
    have all : ∀ column, c.Declares d table column → (columns rows).Has table column :=
      fun column declared => has_columns.2 (covered table column declared)
    obtain ⟨column, declared⟩ := uses_iff.1 ((tables table).1 known)
    refine ⟨Columns.contains_of_has (all column declared), fun column here => ?_⟩
    exact all column ((declares table column).1 here)

theorem mem_missingTables_of_live (h : c.expectedColumns d = .ok expected) (used : c.Uses d table)
    (live : ∀ column, c.Declares d table column → (table, column) ∈ rows) :
    table ∈ (DriftReport.compare (columns rows) expected).missingTables ↔ table ∈ excludedTables := by
  rw [DriftReport.mem_missingTables, (expectedColumns_eq_ok h).1, contains_columns]
  obtain ⟨column, declared⟩ := uses_iff.1 used
  have there : ∃ column, (table, column) ∈ rows := ⟨column, live column declared⟩
  simp [used, there]

end Catalog

theorem ConnectionReport.named_codePoints (name : Option String) (report : Option String → ConnectionReport) :
    named (name.map Text.codePoints) report = .ok (report name) := by
  cases name with
  | none => rfl
  | some name =>
    rw [Option.map_some, named]
    simp only [Text.ofCodePoints?_codePoints]
    rfl

namespace Workspace

theorem check_of_rows (rows : List (String × String)) (expected : Columns) (profileName : Option (List Nat))
    (lock : Bool) :
    let drift := DriftReport.compare (columns rows) expected
    check (.ok rows) (.ok expected) profileName lock =
      (if drift.valid && lock then storeName profileName else pure ⟨⟩) >>= fun _ =>
        liftM (ConnectionReport.named profileName (.ofDrift · drift)) := by
  intro drift
  have read : (liftM (.ok expected : Except Error Columns) : Action Workspace Columns) = pure expected := rfl
  rw [check, read, pure_bind]
  by_cases locking : (drift.valid && lock) = true
  · rw [if_pos locking, if_pos locking]
  · rw [if_neg locking, if_neg locking]
    rfl

theorem connect_of_rows (w : Workspace) (rows : List (String × String)) (expected : Columns)
    (profileName : Option String) (lock : Bool) :
    let report := ConnectionReport.ofDrift profileName (.compare (columns rows) expected)
    w.connect (.ok rows) expected profileName lock = .ok (report, w) ∨
      lock ∧ report.success ∧ ∃ name, profileName = some name ∧
        w.connect (.ok rows) expected profileName lock = (w.writeLock name).map (report, ·) := by
  intro report
  rw [connect, check_of_rows, ConnectionReport.named_codePoints]
  split
  · next locking =>
    obtain ⟨success, locked⟩ := Bool.and_eq_true_iff.1 locking
    cases profileName with
    | none => exact .inl rfl
    | some name =>
      rw [Option.map_some]
      cases points : Text.codePoints name with
      | nil => exact .inl rfl
      | cons n ns =>
        refine .inr ⟨locked, success, name, rfl, ?_⟩
        rw [writeLock, points, storeName, Action.bind_apply]
        cases storeLock (n :: ns) w with
        | mk outcome w' => cases outcome <;> rfl
  · exact .inl rfl

end Workspace

/-- What the check of a connection says. It succeeds exactly if every column that a registered model
declares is among the rows, and its table is none of the database system. A table that is there with all of
its columns is missing exactly if it is one of these. -/
theorem connect_succeeds_iff {c : Catalog} {d : DatabaseId} {expected : Columns}
    (h : c.expectedColumns d = .ok expected) (rows : List (String × String)) (w : Workspace)
    (profileName : Option String) (lock : Bool) :
    ∃ (report : ConnectionReport) (drift : DriftReport), report.drift = some drift ∧
      (w.connect (.ok rows) expected profileName lock = .ok (report, w) ∨
        lock ∧ report.success ∧ ∃ name, profileName = some name ∧
          w.connect (.ok rows) expected profileName lock = (w.writeLock name).map (report, ·)) ∧
      (report.success ↔ ∀ table column, c.Declares d table column →
        (table, column) ∈ rows ∧ table ∉ excludedTables) ∧
      ∀ table, c.Uses d table → (∀ column, c.Declares d table column → (table, column) ∈ rows) →
        (table ∈ drift.missingTables ↔ table ∈ excludedTables) :=
  ⟨_, _, rfl, w.connect_of_rows rows expected profileName lock, Catalog.valid_iff_covered h,
    fun _ used live => Catalog.mem_missingTables_of_live h used live⟩

def Catalog.single (s : Schema) : Catalog := Catalog.enter {} 0 s.table (user s)

theorem Catalog.declares_single {s : Schema} {table column : String} :
    (single s).Declares 0 table column ↔
      s.table = table ∧ (column ∈ s.primary ∨ column ∈ s.fieldNames) := by
  constructor
  · rintro ⟨m, here, own, known, declared⟩
    obtain rfl := List.mem_singleton.1 here
    obtain rfl := Except.ok.inj known
    exact declared
  · intro declared
    exact ⟨user s, List.mem_singleton_self _, s, rfl, declared⟩

theorem connect_succeeds_iff_users :
    let rows := [("users", "id"), ("users", "name"), ("posts", "id")]
    ∃ expected report drift, (Catalog.single users).expectedColumns 0 = .ok expected ∧
      Workspace.fresh.connect (.ok rows) expected none false = .ok (report, Workspace.fresh) ∧
      report.success ∧ report.drift = some drift ∧ "users" ∉ drift.missingTables := by
  intro rows
  have live : ∀ table column, (Catalog.single users).Declares 0 table column →
      (table, column) ∈ rows ∧ table ∉ excludedTables := by
    intro table column declared
    obtain ⟨rfl, key | field⟩ := Catalog.declares_single.1 declared
    · obtain rfl := List.mem_singleton.1 key
      decide
    · obtain rfl := List.mem_singleton.1 field
      decide
  obtain ⟨expected, known⟩ : ∃ expected, (Catalog.single users).expectedColumns 0 = .ok expected :=
    ⟨_, rfl⟩
  obtain ⟨report, drift, hdrift, ended, success, missing⟩ :=
    connect_succeeds_iff known rows Workspace.fresh none false
  refine ⟨expected, report, drift, known, ?_, success.2 live, hdrift, ?_⟩
  · rcases ended with ended | ⟨locked, _⟩
    · exact ended
    · cases locked
  · have used : (Catalog.single users).Uses 0 "users" :=
      ⟨user users, List.mem_singleton_self _, users, rfl, rfl⟩
    rw [missing "users" used fun column declared => (live _ _ declared).1]
    decide

def referenceSystems : Schema where
  table := "spatial_ref_sys"
  fields := .ofEntries [("srtext", .empty)]
  primary := ["srid"]
  relations := .empty
  table_ne := by decide
  types_known := rfl
  primary_ne := List.cons_ne_nil _ _
  disjoint := clashes_eq_nil.2 nofun

/-- The table and all of its columns are among the rows, and it is reported missing. -/
theorem live_yet_missing :
    let rows := [("spatial_ref_sys", "srid"), ("spatial_ref_sys", "srtext")]
    (∀ table column, (Catalog.single referenceSystems).Declares 0 table column → (table, column) ∈ rows) ∧
      ∃ expected report drift, (Catalog.single referenceSystems).expectedColumns 0 = .ok expected ∧
        Workspace.fresh.connect (.ok rows) expected none false = .ok (report, Workspace.fresh) ∧
        report.success = false ∧ report.drift = some drift ∧
        drift.missingTables = ["spatial_ref_sys"] := by
  intro rows
  constructor
  · intro table column declared
    obtain ⟨rfl, key | field⟩ := Catalog.declares_single.1 declared
    · obtain rfl := List.mem_singleton.1 key
      decide
    · obtain rfl := List.mem_singleton.1 field
      decide
  · have ended := Workspace.fresh.connect_of_rows rows
    refine ⟨_, _, _, rfl, (ended _ none false).resolve_right (nomatch ·.1), ?_, rfl, ?_⟩
    · decide +kernel
    · decide +kernel

end RecordMapper
