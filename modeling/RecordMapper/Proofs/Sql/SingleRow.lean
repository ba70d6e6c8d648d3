import RecordMapper.Proofs.Sql.Direct
import RecordMapper.Proofs.Value.Mapping

/-!
Insertion of one row. If names stand for the columns, only a value that cannot be stored keeps the row
from being inserted, and the statement tells in full what is inserted, and what becomes of a row that
is there already.
-/
namespace RecordMapper.Sql

/-- Can the value be stored? All can but maps that have no JSON text. -/
def Storable (v : Value) : Prop := stored v = .ok (storedForm v)

theorem stored_eq_ok_iff {v w : Value} : stored v = .ok w ↔ Storable v ∧ w = storedForm v := by
  constructor
  · intro h
    obtain rfl := stored_eq_ok h
    exact ⟨h, rfl⟩
  · rintro ⟨h, rfl⟩
    exact h

theorem columnNames_texts (columns : List String) : columnNames (columns.map .text) = .ok columns := by
  rw [columnNames, mapM_eq_ok, List.forall₂_map_left_iff, List.forall₂_same]
  exact fun _ _ => rfl

private theorem isIn_texts (name : String) (names : List String) :
    (Value.text name).isIn (names.map .text) = decide (name ∈ names) := by
  rw [Bool.eq_iff_iff, decide_eq_true_iff, Value.isIn]
  simp

namespace Insert

def tuple (values : List Value) : List Piece :=
  .word "(" :: separatedBy ", " (values.map fun v => [.bind v]) ++ [.word ")"]

def single (table : String) (cells : List (String × Value)) (conflict : List Piece) : List Piece :=
  .word (head table (cells.map (·.1))) :: (if cells.isEmpty then [] else tuple (cells.map (·.2))) ++
    conflict ++ [.word " RETURNING *"]

def updated (columns keys : List String) : List String := columns.filter (· ∉ keys)

def upserting (columns keys : List String) : List Piece :=
  [.word (" ON CONFLICT (" ++ ", ".intercalate keys ++ ")" ++
    if (updated columns keys).isEmpty then " DO NOTHING"
    else " DO UPDATE SET " ++
      ", ".intercalate ((updated columns keys).map fun c => c ++ " = EXCLUDED." ++ c))]

private theorem conflictAction_texts (columns keys : List String) :
    conflictAction (columns.map .text) (keys.map .text) =
      if (updated columns keys).isEmpty then " DO NOTHING"
      else " DO UPDATE SET " ++
        ", ".intercalate ((updated columns keys).map fun c => c ++ " = EXCLUDED." ++ c) := by
  have same : (columns.map Value.text).filter (fun c => !c.isIn (keys.map .text)) =
      (updated columns keys).map .text := by
    rw [List.filter_map, updated]
    congr 2
    funext c
    simp [isIn_texts]
  rw [conflictAction, same, List.isEmpty_map, List.map_map]
  rfl

theorem conflictClause_texts (columns : List String) {keys : List String} (some : keys ≠ []) :
    conflictClause (columns.map .text) (keys.map .text) = .ok (upserting columns keys) := by
  have some : (keys.map Value.text).isEmpty = false := by
    rw [List.isEmpty_map, List.isEmpty_eq_false_iff]
    exact some
  rw [conflictClause, some, columnNames_texts, conflictAction_texts]
  rfl

private theorem addColumn_texts {seen : List Value} (texts : ∀ c ∈ seen, c.isText) (v : Value) :
    addColumn seen v = .ok (mention seen v) := by
  rw [addColumn, occursAmong_texts texts]
  rfl

theorem foldlM_addColumn_texts {seen vs : List Value} (known : ∀ c ∈ seen, c.isText)
    (texts : ∀ v ∈ vs, v.isText) : vs.foldlM addColumn seen = .ok (vs.foldl mention seen) := by
  induction vs generalizing seen with
  | nil => rfl
  | cons v vs ih =>
    rw [List.forall_mem_cons] at texts
    have later : ∀ c ∈ mention seen v, c.isText := by
      unfold mention
      split
      · exact known
      · simpa [or_imp, forall_and] using ⟨known, texts.1⟩
    rw [List.foldlM_cons, addColumn_texts known]
    exact ih later texts.2

theorem build_row (table : String) (row : Mapping) {keys : Value} {conflictKeys : List Value}
    (h : (if keys.truthy then keys.toItems else pure []) = .ok conflictKeys) :
    build table row.toValue keys true = .ok ⟨table, [row.toValue], conflictKeys, true⟩ := by
  refine bind_eq_ok.2 ⟨[row.toValue], rfl, ?_⟩
  dsimp only
  split at h
  · rename_i given
    rw [if_pos given, h]
    rfl
  · rename_i none
    obtain rfl := pure_eq_ok.1 h
    rw [if_neg none]
    rfl

section

variable {f : String → Value} {row : Mapping} {columns : List String}
  (entries : row.entries = columns.map fun name => (.text name, f name))
include entries

private theorem keys_of_entries : row.keys = columns.map .text := by
  rw [OrderedMap.keys, entries, List.map_map]
  rfl

private theorem unionColumns_row : unionColumns [row.toValue] = .ok (columns.map .text) := by
  have names := keys_of_entries entries
  have distinct : row.keys.Pairwise fun a b => (a == b) = false := List.pairwise_map.2 row.distinct
  have mentioned : row.keys.foldl mention [] = row.keys :=
    foldl_mention (by simp [names]) distinct
  have texts : ∀ c ∈ row.keys, c.isText := by simp [names]
  have all : row.keys.foldlM addColumn [] = .ok row.keys := by
    rw [foldlM_addColumn_texts (List.forall_mem_nil _) texts, mentioned]
  rw [names] at all
  have items : row.toValue.toItems = .ok row.keys := rfl
  simp only [unionColumns, List.foldlM_cons, List.foldlM_nil, bind_pure, items, names]
  exact all

private theorem cellPieces_row {name : String} (here : name ∈ columns) {ps : List Piece} :
    cellPieces row.toValue (.text name) = .ok ps ↔ Storable (f name) ∧ ps = [.bind (storedForm (f name))] := by
  have there : (.text name, f name) ∈ row.entries := by
    rw [entries]
    exact List.mem_map_of_mem here
  have found : row.get? (.text name) = some (f name) := OrderedMap.get?_of_mem there (by simp)
  rw [cellPieces, Value.memberOf_dict_of_isText rfl, found, Value.part_of_get? found]
  exact bind_pure_eq_ok fun _ => stored_eq_ok_iff

private theorem rowPieces_row {ps : List Piece} :
    rowPieces (columns.map .text) row.toValue = .ok ps ↔
      (∀ name ∈ columns, Storable (f name)) ∧ ps = tuple (columns.map fun name => storedForm (f name)) := by
  have cells : ∀ cells, (columns.map Value.text).mapM (cellPieces row.toValue) = .ok cells ↔
      (∀ name ∈ columns, Storable (f name)) ∧
        cells = columns.map fun name => [.bind (storedForm (f name))] := by
    intro cells
    rw [List.mapM_map]
    exact mapM_eq_ok_map fun name here _ => cellPieces_row entries here
  rw [rowPieces, bind_pure_eq_ok cells, tuple, List.map_map]
  rfl

private theorem rowsClause_row (table : String) (keys : List Value) {ps : List Piece} :
    rowsClause ⟨table, [row.toValue], keys, true⟩ (columns.map .text) = .ok ps ↔
      (∀ name ∈ columns, Storable (f name)) ∧
        ps = .word (head table columns) :: if columns.isEmpty then []
          else tuple (columns.map fun name => storedForm (f name)) := by
  by_cases none : columns = []
  · subst none
    rw [rowsClause, List.map_nil, if_pos List.isEmpty_nil, pure_eq_ok]
    simp [head, String.append_assoc, eq_comm]
  · have some : (columns.map Value.text).isEmpty = false := by simpa using none
    have tuples : ∀ ts, [row.toValue].mapM (rowPieces (columns.map .text)) = .ok ts ↔
        (∀ name ∈ columns, Storable (f name)) ∧
          ts = [tuple (columns.map fun name => storedForm (f name))] := by
      intro ts
      rw [List.mapM_cons, List.mapM_nil]
      exact bind_pure_eq_ok fun _ => rowPieces_row entries
    have first : head table columns =
        "INSERT INTO " ++ table ++ " (" ++ ", ".intercalate columns ++ ") VALUES " := by
      rw [head, if_neg (by simpa using none)]
      simp [String.append_assoc]
    rw [rowsClause, some, if_neg Bool.false_ne_true, columnNames_texts, if_neg (by simpa using none), first]
    exact bind_pure_eq_ok tuples

theorem pieces_row (table : String) {keys : List Value} {conflict : List Piece}
    (hconflict : conflictClause (columns.map .text) keys = .ok conflict) {ps : List Piece} :
    Insert.pieces ⟨table, [row.toValue], keys, true⟩ = .ok ps ↔
      (∀ name ∈ columns, Storable (f name)) ∧
        ps = single table (columns.map fun name => (name, storedForm (f name))) conflict := by
  have parts : single table (columns.map fun name => (name, storedForm (f name))) conflict =
      (.word (head table columns) :: if columns.isEmpty then []
        else tuple (columns.map fun name => storedForm (f name))) ++ conflict ++ returningClause true := by
    simp [single, Function.comp_def, returningClause]
  rw [Insert.pieces, unionColumns_row entries, ok_bind, hconflict, parts]
  exact bind_pure_eq_ok fun _ => rowsClause_row entries table keys

end

end Insert

end RecordMapper.Sql
