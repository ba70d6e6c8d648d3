import Mathlib.Data.List.Nodup
import RecordMapper.Proofs.Sql.Cut
import RecordMapper.Proofs.Sql.Symbol

/-!
The ranges of a query, and the columns they offer. The query of a relation offers two columns, the
foreign column and the payload. They have different names unless the relation is called like its
foreign column, and then everything that the query takes from its inner one is well-defined.
-/
namespace RecordMapper.Sql

structure Range where
  name : String
  columns : List (Option String)

section

variable (reading : Reading)

def Select.exports : Select → List (Option String)
  | .mk columns _ _ _ => columns.map fun
    | .text column => reading.columnName column
    | _ => none

/-- The texts in which a query takes columns from its ranges, to select them or to group by them. -/
def Select.texts : Select → List String
  | .mk columns _ _ clauses => clauses.group :: columns.filterMap fun
    | .text column => some column
    | _ => none

def Source.range? (tables : String → List String) : Source → Option Range
  | .missing => none
  | .table name => some ⟨reading.bare name, (tables (reading.bare name)).map some⟩
  | .subquery q label => some ⟨reading.bare label, q.exports reading⟩

def Join.range : Join → Range
  | .left q label _ _ => ⟨reading.bare label, q.exports reading⟩

def Select.ranges (tables : String → List String) : Select → List Range
  | .mk _ source joins _ => (source.range? reading tables).toList ++ joins.map (·.range reading)

end

/-- One range has the name, and one of its columns the name of the column. -/
def Resolves (ranges : List Range) (reference : String × String) : Prop :=
  (ranges.map Range.name).count reference.1 = 1 ∧
    ∃ range ∈ ranges, range.name = reference.1 ∧ range.columns.count (some reference.2) = 1

/-- The text refers to columns of ranges, with each reference to exactly one. -/
def Clear (reading : Reading) (ranges : List Range) (text : String) : Prop :=
  reading.references text ≠ [] ∧ ∀ reference ∈ reading.references text, Resolves ranges reference

theorem resolves_of_nodup {ranges : List Range} (h : (ranges.map Range.name).Nodup) {range : Range}
    (mem : range ∈ ranges) {column : String} (once : range.columns.count (some column) = 1) :
    Resolves ranges (range.name, column) :=
  ⟨List.count_eq_one_of_mem h (List.mem_map_of_mem mem), range, mem, rfl, once⟩

theorem clear_of_reference {reading : Reading} {ranges : List Range} {text : String}
    {reference : String × String} (h : reading.references text = [reference])
    (resolves : Resolves ranges reference) : Clear reading ranges text := by
  rw [Clear, h]
  exact ⟨List.cons_ne_nil _ _, fun _ mem => List.mem_singleton.1 mem ▸ resolves⟩

end Sql

namespace Relation

open Sql

variable {name : String} {r : Relation} {target : Schema} (reading : Reading)

def offered (name : String) (r : Relation) : List (Option String) :=
  [some (reading.bare r.foreignColumn), some (reading.quoted name)]

theorem isName_joinAlias (h : isName name) : isName (joinAlias name) := by
  obtain ⟨_, all⟩ := isName_iff.1 h
  rw [isName_iff, joinAlias, String.toList_append, List.all_append, all]
  exact ⟨by simp, rfl⟩

theorem isName_innerAlias (h : isName name) : isName (innerAlias name) := by
  obtain ⟨some, all⟩ := isName_iff.1 (isName_joinAlias h)
  rw [isName_iff, innerAlias, String.toList_append, List.all_append, all]
  exact ⟨by simp [some], by decide⟩

theorem exports_joinOne (named : isName name) (foreign : isName r.foreignColumn)
    (columns : ∀ c ∈ r.fetched target, isName c) :
    (joinOne name r target).exports reading = offered reading name r := by
  change [reading.columnName r.foreignColumn,
    reading.columnName (jsonObject (r.fetched target) ++ " AS " ++ quotedName name)] = _
  rw [reading.columnName_name foreign, reading.columnName_as (Scan.complete_jsonObject columns) named]
  rfl

def gatheredKey (name : String) (r : Relation) : String := innerAlias name ++ "." ++ r.foreignColumn

def gathered (name : String) : String :=
  "json_agg(" ++ innerAlias name ++ "." ++ quotedName name ++ ") AS " ++ quotedName name

theorem symbols_gathered (named : isName name) :
    symbols (gathered name) = [.bare "json_agg", .mark '(', .bare (innerAlias name), .mark '.',
      .quoted name, .mark ')', .bare "AS", .quoted name] := by
  have function : isName "json_agg" := by decide
  have chars : (gathered name).toList = "json_agg".toList ++ '(' :: ((innerAlias name).toList ++
      '.' :: ((quotedName name).toList ++ (") AS ".toList ++ (quotedName name).toList))) := by
    simp [gathered]
  rw [symbols, chars, Scan.symbols_nameMark function rfl rfl,
    Scan.symbols_nameMark (isName_innerAlias named) rfl rfl, Scan.symbols_quotedName named]
  change [_, _, _, _, _, Symbol.mark ')', .bare "AS"] ++ Scan.nothing.symbols (quotedName name).toList = _
  rw [Scan.symbols_lastQuotedName named]
  rfl

private theorem exports_joinMany (named : isName name) (foreign : isName r.foreignColumn) :
    (joinMany name r target).exports reading = offered reading name r := by
  change [reading.columnName (gatheredKey name r), reading.columnName (gathered name)] = _
  rw [gatheredKey, reading.columnName_column (isName_innerAlias named) foreign, Reading.columnName,
    symbols_gathered named]
  rfl

private theorem references_gathered (named : isName name) :
    reading.references (gathered name) = [(reading.bare (innerAlias name), reading.quoted name)] := by
  rw [Reading.references, symbols_gathered named]
  rfl

example : Reading.folding.references (gathered "Posts") = [("t_posts__inner", "Posts")] := by decide

theorem kind_of_compile {q : Select} (h : r.compile name target = .ok q) :
    (r.kind = .hasOne ∧ q = joinOne name r target) ∨ (r.kind = .hasMany ∧ q = joinMany name r target) := by
  unfold compile at h
  split at h
  · rename_i kind
    exact .inl ⟨kind, (pure_eq_ok.1 h).symm⟩
  · rename_i kind
    exact .inr ⟨kind, (pure_eq_ok.1 h).symm⟩
  · cases h

theorem exports_of_compile {q : Select} (h : r.compile name target = .ok q) (named : isName name)
    (foreign : isName r.foreignColumn) (columns : ∀ c ∈ r.fetched target, isName c) :
    ∀ inner ∈ q.queries, inner.exports reading = offered reading name r := by
  have one := exports_joinOne reading named foreign columns
  rcases kind_of_compile h with ⟨_, rfl⟩ | ⟨_, rfl⟩
  · intro inner mem
    obtain rfl := List.mem_singleton.1 mem
    exact one
  · intro inner mem
    change inner ∈ [joinMany name r target, joinOne name r target] at mem
    rcases List.mem_pair.1 mem with rfl | rfl
    · exact exports_joinMany reading named foreign
    · exact one

theorem count_offered (apart : reading.bare r.foreignColumn ≠ reading.quoted name) :
    (offered reading name r).count (some (reading.bare r.foreignColumn)) = 1 ∧
      (offered reading name r).count (some (reading.quoted name)) = 1 := by
  simp [offered, apart, apart.symm]

theorem clear_of_compile {q : Select} (h : r.compile name target = .ok q) (named : isName name)
    (foreign : isName r.foreignColumn) (columns : ∀ c ∈ r.fetched target, isName c)
    (apart : reading.bare r.foreignColumn ≠ reading.quoted name) (many : r.kind = .hasMany)
    (tables : String → List String) :
    ∀ text ∈ q.texts, Clear reading (q.ranges reading tables) text := by
  rcases kind_of_compile h with ⟨one, _⟩ | ⟨_, rfl⟩
  · rw [many] at one
    cases one
  let inner : Range := ⟨reading.bare (innerAlias name), offered reading name r⟩
  have ranges : (joinMany name r target).ranges reading tables = [inner] := by
    change [Range.mk _ ((joinOne name r target).exports reading)] = _
    rw [exports_joinOne reading named foreign columns]
  have single : ([inner].map Range.name).Nodup := List.nodup_singleton _
  have resolves {column : String} (once : inner.columns.count (some column) = 1) :
      Resolves [inner] (inner.name, column) :=
    resolves_of_nodup single (List.mem_singleton_self inner) once
  obtain ⟨key, payload⟩ := count_offered reading apart
  have clearKey : Clear reading [inner] (gatheredKey name r) :=
    clear_of_reference (reading.references_column (isName_innerAlias named) foreign) (resolves key)
  have clearPayload : Clear reading [inner] (gathered name) :=
    clear_of_reference (references_gathered reading named) (resolves payload)
  rw [ranges]
  intro text mem
  change text ∈ [gatheredKey name r, gatheredKey name r, gathered name] at mem
  simp only [List.mem_cons, List.not_mem_nil, or_false, or_self_left] at mem
  rcases mem with rfl | rfl
  · exact clearKey
  · exact clearPayload

end Relation

end RecordMapper
