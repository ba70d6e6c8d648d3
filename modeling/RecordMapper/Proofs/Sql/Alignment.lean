import Mathlib.Data.List.Nodup
import RecordMapper.Proofs.Sql.Matching
import RecordMapper.Proofs.Sql.SingleRow

/-!
Rows that are aligned. An insertion of rows has a column for each key of any of them and a tuple of
cells for each row, or it has no columns and stands for one row of defaults. It fails exactly if a key is
no text or a value cannot be stored. From the columns and the tuples each row can be told again.
-/
namespace RecordMapper

namespace Sql

/-- A cell of a row to insert: a value, or what the database puts there by itself. -/
inductive Cell
  | given (v : Value)
  | omitted

namespace Cell

def pieces : Cell → List Piece
  | given v => [.bind v]
  | omitted => [.word "DEFAULT"]

def value? : Cell → Option Value
  | given v => some v
  | omitted => none

theorem boundValues_pieces (cell : Cell) : boundValues cell.pieces = cell.value?.toList := by
  cases cell <;> rfl

end Cell

/-- What is inserted: one row of defaults, or rows of cells under columns. -/
inductive Content
  | defaults
  | rows (columns : List Value) (tuples : List (List Cell))

namespace Content

def size : Content → Nat
  | defaults => 1
  | rows _ tuples => tuples.length

def front (table : String) (columns : List Value) : String :=
  "INSERT INTO " ++ table ++ " (" ++ ", ".intercalate (columns.map Value.shown) ++ ") VALUES "

def tuplePieces (cells : List Cell) : List Piece :=
  .word "(" :: separatedBy ", " (cells.map Cell.pieces) ++ [.word ")"]

def pieces (table : String) : Content → List Piece
  | defaults => [.word ("INSERT INTO " ++ table ++ " DEFAULT VALUES")]
  | rows columns tuples => .word (front table columns) :: separatedBy ", " (tuples.map tuplePieces)

def rowUnder (columns : List Value) (cells : List Cell) : Entries :=
  (columns.zip cells).filterMap fun x => x.2.value?.map (x.1, ·)

def entries : Content → List Entries
  | defaults => [[]]
  | rows columns tuples => tuples.map (rowUnder columns)

theorem boundValues_tuplePieces (cells : List Cell) :
    boundValues (tuplePieces cells) = cells.filterMap Cell.value? := by
  have parts : (cells.map Cell.pieces).flatMap boundValues = cells.filterMap Cell.value? := by
    induction cells with
    | nil => rfl
    | cons cell cells ih =>
      rw [List.map_cons, List.flatMap_cons, ih, Cell.boundValues_pieces]
      cases cell <;> rfl
  simp [tuplePieces, boundValues, boundValues_separatedBy, parts]

end Content

end Sql

open Sql

namespace Mapping

def cell (row : Mapping) (column : Value) : Cell :=
  match row.get? column with
  | some v => .given (storedForm v)
  | none => .omitted

def storedEntries (row : Mapping) : Entries := row.entries.map fun e => (e.1, storedForm e.2)

/-- All keys are texts, and all values can be stored. -/
def Storable (row : Mapping) : Prop := ∀ e ∈ row.entries, e.1.isText ∧ Sql.Storable e.2

end Mapping

namespace Sql

def columnsOf (rows : List Mapping) : List Value := (rows.flatMap OrderedMap.keys).eraseDups

def tuplesOf (rows : List Mapping) : List (List Cell) :=
  rows.map fun row => (columnsOf rows).map row.cell

def Content.ofRows (rows : List Mapping) : Content :=
  if (columnsOf rows).isEmpty then defaults else .rows (columnsOf rows) (tuplesOf rows)

private theorem foldl_mention_eq (seen vs : List Value) :
    vs.foldl mention seen = seen ++ (vs.filter fun v => !v.isIn seen).eraseDups := by
  induction vs generalizing seen with
  | nil => simp
  | cons v vs ih =>
    rw [List.foldl_cons, ih, mention]
    cases there : v.isIn seen with
    | true => simp [there]
    | false =>
      have later : (vs.filter fun w => !w.isIn (seen ++ [v])) =
          (vs.filter fun w => !w.isIn seen).filter fun w => !w == v := by
        rw [List.filter_filter]
        congr 1
        funext w
        simp [Value.isIn, Bool.and_comm]
      simp [there, later, List.eraseDups_cons]

theorem firstMentions_eq_eraseDups (vs : List Value) : firstMentions vs = vs.eraseDups := by
  have all : vs.filter (fun v => !v.isIn []) = vs := List.filter_eq_self.2 fun _ _ => rfl
  rw [firstMentions, foldl_mention_eq, all, List.nil_append]

theorem mem_eraseDups_of_texts : (vs : List Value) → (∀ v ∈ vs, v.isText) → {c : Value} →
    (c ∈ vs.eraseDups ↔ c ∈ vs)
  | [], _, _ => by simp
  | v :: vs, texts, c => by
    rw [List.forall_mem_cons] at texts
    have rest : ∀ w ∈ vs.filter fun w => !w == v, w.isText := fun w hw =>
      texts.2 w (List.mem_filter.1 hw).1
    rw [List.eraseDups_cons, List.mem_cons, List.mem_cons, mem_eraseDups_of_texts _ rest, List.mem_filter,
      Bool.not_eq_true', ← Bool.not_eq_true, Value.beq_text_iff texts.1]
    tauto
termination_by vs => vs.length
decreasing_by exact Nat.lt_succ_of_le (List.length_filter_le ..)

theorem nodup_eraseDups_of_texts : (vs : List Value) → (∀ v ∈ vs, v.isText) → vs.eraseDups.Nodup
  | [], _ => by simp
  | v :: vs, texts => by
    rw [List.forall_mem_cons] at texts
    have rest : ∀ w ∈ vs.filter fun w => !w == v, w.isText := fun w hw =>
      texts.2 w (List.mem_filter.1 hw).1
    rw [List.eraseDups_cons, List.nodup_cons, mem_eraseDups_of_texts _ rest, List.mem_filter]
    refine ⟨fun ⟨_, other⟩ => ?_, nodup_eraseDups_of_texts _ rest⟩
    rw [Bool.not_eq_true', ← Bool.not_eq_true, Value.beq_text_iff texts.1] at other
    exact other rfl
termination_by vs => vs.length
decreasing_by exact Nat.lt_succ_of_le (List.length_filter_le ..)

theorem texts_of_eraseDups : (vs : List Value) → (∀ c ∈ vs.eraseDups, c.isText) → ∀ v ∈ vs, v.isText
  | [], _ => by simp
  | v :: vs, kept => by
    rw [List.eraseDups_cons, List.forall_mem_cons] at kept
    rw [List.forall_mem_cons]
    refine ⟨kept.1, fun w hw => ?_⟩
    by_cases same : w = v
    · exact same ▸ kept.1
    · refine texts_of_eraseDups _ kept.2 w (List.mem_filter.2 ⟨hw, ?_⟩)
      rwa [Bool.not_eq_true', ← Bool.not_eq_true, Value.beq_text_iff kept.1]
termination_by vs => vs.length
decreasing_by exact Nat.lt_succ_of_le (List.length_filter_le ..)

section

variable {rows : List Mapping}

private theorem listed_toValue (rows : List Mapping) :
    (rows.map OrderedMap.toValue).flatMap listed = rows.flatMap OrderedMap.keys := by
  rw [List.flatMap_map]
  rfl

theorem columnsOf_eq_nil : columnsOf rows = [] ↔ ∀ row ∈ rows, row.entries = [] := by
  have mentioned : columnsOf rows = [] ↔ rows.flatMap OrderedMap.keys = [] := by
    rw [columnsOf]
    cases rows.flatMap OrderedMap.keys with
    | nil => simp
    | cons c cs => simp [List.eraseDups_cons]
  rw [mentioned, List.flatMap_eq_nil_iff]
  simp [OrderedMap.keys]

theorem Content.ofRows_of_blank (blank : ∀ row ∈ rows, row.entries = []) : ofRows rows = .defaults := by
  rw [ofRows, if_pos (List.isEmpty_iff.2 (columnsOf_eq_nil.2 blank))]

theorem columnsOf_ne_nil (key : ∃ row ∈ rows, row.entries ≠ []) : columnsOf rows ≠ [] := by
  obtain ⟨row, hrow, key⟩ := key
  exact fun none => key (columnsOf_eq_nil.1 none row hrow)

theorem Content.ofRows_of_key (key : ∃ row ∈ rows, row.entries ≠ []) :
    ofRows rows = .rows (columnsOf rows) (tuplesOf rows) := by
  rw [ofRows, if_neg fun none => columnsOf_ne_nil key (List.isEmpty_iff.1 none)]

theorem texts_of_storable (storable : ∀ row ∈ rows, row.Storable) :
    ∀ row ∈ rows, ∀ key ∈ row.keys, key.isText := by
  intro row hrow key hkey
  obtain ⟨e, he, rfl⟩ := List.mem_map.1 hkey
  exact (storable row hrow e he).1

variable (texts : ∀ row ∈ rows, ∀ key ∈ row.keys, key.isText)
include texts

theorem keys_isText : ∀ key ∈ rows.flatMap OrderedMap.keys, key.isText := by
  intro key mem
  obtain ⟨row, hrow, hkey⟩ := List.mem_flatMap.1 mem
  exact texts row hrow key hkey

theorem mem_columnsOf {c : Value} : c ∈ columnsOf rows ↔ ∃ row ∈ rows, c ∈ row.keys := by
  rw [columnsOf, mem_eraseDups_of_texts _ (keys_isText texts), List.mem_flatMap]

theorem isText_columnsOf : ∀ c ∈ columnsOf rows, c.isText := by
  intro c mem
  obtain ⟨row, hrow, hkey⟩ := (mem_columnsOf texts).1 mem
  exact texts row hrow c hkey

theorem nodup_columnsOf : (columnsOf rows).Nodup := nodup_eraseDups_of_texts _ (keys_isText texts)

end

end Sql

namespace Mapping

variable {row : Mapping} {c v : Value}

theorem cell_eq_omitted_iff (text : c.isText) : row.cell c = .omitted ↔ c ∉ row.keys := by
  rw [← OrderedMap.get?_eq_none_iff text, cell]
  cases row.get? c <;> simp

theorem cell_of_mem (text : c.isText) (mem : (c, v) ∈ row.entries) :
    row.cell c = .given (storedForm v) := by
  rw [cell, (OrderedMap.get?_eq_some_iff text).2 mem]

theorem value?_cell (text : c.isText) {w : Value} :
    (row.cell c).value? = some w ↔ ∃ v, (c, v) ∈ row.entries ∧ storedForm v = w := by
  simp only [← OrderedMap.get?_eq_some_iff text, cell]
  cases row.get? c <;> simp [Cell.value?]

theorem nodup_keys (texts : ∀ key ∈ row.keys, key.isText) : row.keys.Nodup := by
  rw [OrderedMap.keys, List.Nodup, List.pairwise_map]
  refine row.distinct.imp_of_mem fun {a b} ha _ differ same => ?_
  have text := texts a.1 (List.mem_map_of_mem ha)
  rw [← same, (Value.text_beq_iff text a.1).2 rfl] at differ
  cases differ

end Mapping

namespace Sql

theorem Content.rowUnder_map (f : Value → Cell) (columns : List Value) :
    rowUnder columns (columns.map f) = columns.filterMap fun c => (f c).value?.map (c, ·) := by
  induction columns with
  | nil => rfl
  | cons c columns ih =>
    simp only [rowUnder, List.map_cons, List.zip_cons_cons, List.filterMap_cons] at ih ⊢
    rw [ih]

/-- A row is told again from its cells, if no key of it is left out of the columns. -/
theorem Content.rowUnder_perm {row : Mapping} {columns : List Value} (distinct : columns.Nodup)
    (texts : ∀ c ∈ columns, c.isText) (covered : ∀ key ∈ row.keys, key ∈ columns) :
    (rowUnder columns (columns.map row.cell)).Perm row.storedEntries := by
  have once : (rowUnder columns (columns.map row.cell)).Nodup := by
    rw [rowUnder_map]
    apply List.Nodup.filterMap _ distinct
    intro c c' e he he'
    obtain ⟨_, _, rfl⟩ := Option.map_eq_some_iff.1 he
    obtain ⟨_, _, same⟩ := Option.map_eq_some_iff.1 he'
    exact (congrArg Prod.fst same).symm
  have keys : row.storedEntries.map (·.1) = row.keys := by
    simp [Mapping.storedEntries, OrderedMap.keys, Function.comp_def]
  have once' : row.storedEntries.Nodup := by
    apply List.Nodup.of_map (·.1)
    rw [keys]
    exact Mapping.nodup_keys fun key hkey => texts key (covered key hkey)
  rw [List.perm_ext_iff_of_nodup once once', rowUnder_map]
  rintro ⟨c, w⟩
  simp only [List.mem_filterMap, Option.map_eq_some_iff, Prod.mk.injEq, Mapping.storedEntries, List.mem_map]
  constructor
  · rintro ⟨c, hc, w, value, rfl, rfl⟩
    obtain ⟨v, mem, rfl⟩ := (Mapping.value?_cell (texts c hc)).1 value
    exact ⟨(c, v), mem, rfl, rfl⟩
  · rintro ⟨e, he, rfl, rfl⟩
    have hc := covered e.1 (List.mem_map_of_mem he)
    exact ⟨e.1, hc, _, (Mapping.value?_cell (texts _ hc)).2 ⟨e.2, he, rfl⟩, rfl, rfl⟩

namespace Insert

private theorem unionColumns_rows {rows : List Mapping} (texts : ∀ row ∈ rows, ∀ key ∈ row.keys, key.isText) :
    unionColumns (rows.map OrderedMap.toValue) = .ok (columnsOf rows) := by
  have walk (seen : List Value) : (rows.map OrderedMap.toValue).foldlM
      (fun columns row => do (← row.toItems).foldlM addColumn columns) seen =
      (rows.flatMap OrderedMap.keys).foldlM addColumn seen := by
    clear texts
    induction rows generalizing seen with
    | nil => rfl
    | cons row rows ih =>
      rw [List.map_cons, List.foldlM_cons, List.flatMap_cons, List.foldlM_append]
      exact congrArg _ (funext ih)
  rw [unionColumns, walk, foldlM_addColumn_texts (List.forall_mem_nil _) (keys_isText texts)]
  exact congrArg _ (firstMentions_eq_eraseDups _)

theorem columnNames_iff {columns : List Value} {names : List String} :
    columnNames columns = .ok names ↔ (∀ c ∈ columns, c.isText) ∧ names = columns.map Value.shown := by
  constructor
  · exact columnNames_eq_ok
  · rintro ⟨texts, rfl⟩
    rw [columnNames, mapM_eq_ok, List.forall₂_map_right_iff, List.forall₂_same]
    intro c hc
    have text := texts c hc
    cases c with
    | text s => rfl
    | looseText ns => rfl
    | _ => cases text

private theorem conflictClause_iff {columns keys : List Value} {ps : List Piece} :
    conflictClause columns keys = .ok ps ↔
      (∀ key ∈ keys, key.isText) ∧ ps = conflicting columns keys := by
  unfold conflictClause conflicting
  split
  · rename_i none
    rw [List.isEmpty_iff.1 none, pure_eq_ok]
    exact ⟨fun h => ⟨nofun, h.symm⟩, fun h => h.2.symm⟩
  · exact bind_pure_eq_ok fun _ => columnNames_iff

theorem boundValues_suffix (columns keys : List Value) (returning : Bool) :
    boundValues (conflicting columns keys ++ returningClause returning) = [] := by
  unfold conflicting returningClause
  split <;> cases returning <;> rfl

section

variable {row : Mapping} {columns : List Value}

private theorem cellPieces_mapping {c : Value} (text : c.isText) {ps : List Piece} :
    cellPieces row.toValue c = .ok ps ↔
      (∀ v, (c, v) ∈ row.entries → Sql.Storable v) ∧ ps = (row.cell c).pieces := by
  rw [cellPieces, Value.memberOf_dict_of_isText text, ok_bind]
  simp only [← OrderedMap.get?_eq_some_iff text, Mapping.cell]
  cases found : row.get? c with
  | none =>
    have all : ∀ v, none = some v → Sql.Storable v := by simp
    rw [Option.isSome_none, if_neg Bool.false_ne_true, pure_eq_ok]
    exact ⟨fun h => ⟨all, h.symm⟩, fun h => h.2.symm⟩
  | some v =>
    have only : (∀ w, some v = some w → Sql.Storable w) ↔ Sql.Storable v := by simp
    rw [Option.isSome_some, if_pos rfl, Value.part_of_get? found, only]
    exact bind_pure_eq_ok fun _ => stored_eq_ok_iff

private theorem rowPieces_mapping (texts : ∀ c ∈ columns, c.isText) {ps : List Piece} :
    rowPieces columns row.toValue = .ok ps ↔
      (∀ c ∈ columns, ∀ v, (c, v) ∈ row.entries → Sql.Storable v) ∧
        ps = Content.tuplePieces (columns.map row.cell) := by
  have cells : ∀ cells, columns.mapM (cellPieces row.toValue) = .ok cells ↔
      (∀ c ∈ columns, ∀ v, (c, v) ∈ row.entries → Sql.Storable v) ∧
        cells = columns.map fun c => (row.cell c).pieces :=
    fun _ => mapM_eq_ok_map fun c hc _ => cellPieces_mapping (texts c hc)
  rw [rowPieces, bind_pure_eq_ok cells, Content.tuplePieces, List.map_map]
  rfl

end

section

variable {rows : List Mapping} (table : String) (keys : List Value) (returning : Bool)

private theorem rowsClause_mappings (texts : ∀ row ∈ rows, ∀ key ∈ row.keys, key.isText) {ps : List Piece} :
    rowsClause ⟨table, rows.map OrderedMap.toValue, keys, returning⟩ (columnsOf rows) = .ok ps ↔
      (∀ row ∈ rows, ∀ e ∈ row.entries, Sql.Storable e.2) ∧ ps = (Content.ofRows rows).pieces table := by
  unfold rowsClause Content.ofRows
  split
  · rename_i none
    have none := columnsOf_eq_nil.1 (List.isEmpty_iff.1 none)
    have stored : ∀ row ∈ rows, ∀ e ∈ row.entries, Sql.Storable e.2 := fun row hrow => by simp [none row hrow]
    rw [pure_eq_ok, Content.pieces, eq_comm]
    exact (and_iff_right stored).symm
  · have known : ∀ c ∈ columnsOf rows, c.isText := isText_columnsOf texts
    have covered : ∀ row ∈ rows, ∀ p : Value → Prop,
        (∀ c ∈ columnsOf rows, ∀ v, (c, v) ∈ row.entries → p v) ↔ ∀ e ∈ row.entries, p e.2 := by
      intro row hrow p
      constructor
      · intro each e he
        exact each e.1 ((mem_columnsOf texts).2 ⟨row, hrow, List.mem_map_of_mem he⟩) e.2 he
      · intro each c _ v mem
        exact each (c, v) mem
    have tuples : ∀ ts, (rows.map OrderedMap.toValue).mapM (rowPieces (columnsOf rows)) = .ok ts ↔
        (∀ row ∈ rows, ∀ e ∈ row.entries, Sql.Storable e.2) ∧
          ts = rows.map fun row => Content.tuplePieces ((columnsOf rows).map row.cell) := by
      intro ts
      rw [List.mapM_map]
      refine mapM_eq_ok_map fun row hrow _ => ?_
      rw [← covered row hrow]
      exact rowPieces_mapping known
    rw [columnNames_iff.2 ⟨known, rfl⟩, Content.pieces, tuplesOf, List.map_map]
    exact bind_pure_eq_ok tuples

private theorem pieces_mappings {ps : List Piece} :
    Insert.pieces ⟨table, rows.map OrderedMap.toValue, keys, returning⟩ = .ok ps ↔
      (∀ row ∈ rows, row.Storable) ∧ (∀ key ∈ keys, key.isText) ∧
        ps = (Content.ofRows rows).pieces table ++ conflicting (columnsOf rows) keys ++
          returningClause returning := by
  -- Whichever side is given, the keys are texts; then the clauses are known one by one.
  have clauses (texts : ∀ row ∈ rows, ∀ key ∈ row.keys, key.isText) :
      Insert.pieces ⟨table, rows.map OrderedMap.toValue, keys, returning⟩ = .ok ps ↔
        (∀ row ∈ rows, ∀ e ∈ row.entries, Sql.Storable e.2) ∧ (∀ key ∈ keys, key.isText) ∧
          ps = (Content.ofRows rows).pieces table ++ conflicting (columnsOf rows) keys ++
            returningClause returning := by
    rw [Insert.pieces, unionColumns_rows texts, ok_bind, bind_eq_ok]
    simp only [rowsClause_mappings table keys returning texts, bind_pure_eq_ok fun _ => conflictClause_iff]
    constructor
    · rintro ⟨_, ⟨stored, rfl⟩, known, rfl⟩
      exact ⟨stored, known, rfl⟩
    · rintro ⟨stored, known, rfl⟩
      exact ⟨_, ⟨stored, rfl⟩, known, rfl⟩
  constructor
  · intro h
    obtain ⟨columns, clause, hcolumns, hclause, _⟩ := pieces_eq_ok h
    have known : ∀ c ∈ columns, c.isText := by
      rcases rowsClause_eq_ok hclause with ⟨rfl, _⟩ | ⟨_, known, _⟩
      · simp
      · exact known
    rw [unionColumns_eq_ok hcolumns known, listed_toValue, firstMentions_eq_eraseDups] at known
    have texts : ∀ row ∈ rows, ∀ key ∈ row.keys, key.isText := fun row hrow key hkey =>
      texts_of_eraseDups _ known key (List.mem_flatMap.2 ⟨row, hrow, hkey⟩)
    obtain ⟨stored, rest⟩ := (clauses texts).1 h
    exact ⟨fun row hrow e he => ⟨texts row hrow e.1 (List.mem_map_of_mem he), stored row hrow e he⟩, rest⟩
  · rintro ⟨storable, rest⟩
    exact (clauses (texts_of_storable storable)).2 ⟨fun row hrow e he => (storable row hrow e he).2, rest⟩

end

def conflictTarget (keys : Value) : Except Error (List Value) :=
  if keys.truthy then keys.toItems else pure []

def statement (table : String) (rows keys : Value) (returning : Bool) : Except Error Statement := do
  (← build table rows keys returning).render

private theorem build_list {rows : List Value} (some : rows ≠ []) (table : String) (keys : Value)
    (returning : Bool) :
    build table (.list rows) keys returning =
      (conflictTarget keys >>= fun target => pure ⟨table, rows, target, returning⟩) := by
  have items : (Value.list rows).toItems = .ok rows := rfl
  have given : ¬rows.isEmpty := by rwa [List.isEmpty_iff]
  simp only [build, items, ok_bind, if_neg given, conflictTarget]
  split <;> rfl

/-- What inserts rows. -/
def written (table : String) (rows : List Mapping) (keys : List Value) (returning : Bool) : Statement :=
  .ofPieces ((Content.ofRows rows).pieces table ++
    (conflicting (columnsOf rows) keys ++ returningClause returning))

theorem statement_mappings {rows : List Mapping} (some : rows ≠ []) {table : String} {keys : Value}
    {returning : Bool} {s : Statement} :
    statement table (.list (rows.map OrderedMap.toValue)) keys returning = .ok s ↔
      (∀ row ∈ rows, row.Storable) ∧ ∃ target, conflictTarget keys = .ok target ∧
        (∀ key ∈ target, key.isText) ∧ s = written table rows target returning := by
  have given : rows.map OrderedMap.toValue ≠ [] := by simpa using some
  rw [statement, build_list given, bind_assoc, bind_eq_ok]
  simp only [pure_bind, render_eq, bind_eq_ok, pieces_mappings table _ returning, pure_eq_ok, written,
    List.append_assoc]
  constructor
  · rintro ⟨target, known, _, ⟨storable, texts, rfl⟩, rfl⟩
    exact ⟨storable, target, known, texts, rfl⟩
  · rintro ⟨storable, target, known, texts, rfl⟩
    exact ⟨target, known, _, ⟨storable, texts, rfl⟩, rfl⟩

end Insert

end Sql

end RecordMapper
