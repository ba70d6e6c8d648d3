import RecordMapper.Proofs.Except
import RecordMapper.Proofs.Value.Text
import RecordMapper.Proofs.Sql.Rendering

/-!
Statements of all four kinds as one type, and what their pieces are made of when there are any. The
columns of an insertion are what its rows list, in the order of first mention.
-/
namespace RecordMapper.Sql

inductive Command
  | select (q : Select)
  | insert (q : Insert)
  | update (q : Update)
  | delete (q : Delete)

namespace Command

def pieces : Command → Except Error (List Piece)
  | select q => q.pieces
  | insert q => q.pieces
  | update q => q.pieces
  | delete q => pure q.pieces

def render : Command → Except Error Statement
  | select q => q.render
  | insert q => q.render
  | update q => q.render
  | delete q => q.render

theorem render_eq (c : Command) : c.render = do return .ofPieces (← c.pieces) := by
  cases c with
  | select q => exact q.render_eq
  | insert q => exact q.render_eq
  | update q => exact q.render_eq
  | delete q => exact q.render_eq

theorem render_eq_ok {c : Command} {s : Statement} (h : c.render = .ok s) :
    ∃ ps, c.pieces = .ok ps ∧ s = .ofPieces ps := by
  rw [render_eq] at h
  obtain ⟨ps, hps, hs⟩ := bind_eq_ok.1 h
  exact ⟨ps, hps, (pure_eq_ok.1 hs).symm⟩

end Command

def decimal (count : Value) : String :=
  match count.toInteger with
  | .ok n => toString n
  | .error _ => ""

theorem countClause_eq_ok {keyword : String} {count : Value} {ps : List Piece} :
    countClause keyword count = .ok ps ↔
      ∃ n, count.toInteger = .ok n ∧ Number.isOverlong n = false ∧
        ps = [.word (keyword ++ toString n)] := by
  constructor
  · intro h
    obtain ⟨n, hn, h⟩ := bind_eq_ok.1 h
    split at h
    · cases h
    · rename_i short
      exact ⟨n, hn, Bool.not_eq_true _ ▸ short, (pure_eq_ok.1 h).symm⟩
  · rintro ⟨n, hn, short, rfl⟩
    refine bind_eq_ok.2 ⟨n, hn, ?_⟩
    simp only [short]
    rfl

theorem columnNames_eq_ok {columns : List Value} {names : List String}
    (h : columnNames columns = .ok names) :
    (∀ c ∈ columns, c.isText) ∧ names = columns.map Value.shown := by
  induction mapM_eq_ok.1 h with
  | nil => exact ⟨by simp, rfl⟩
  | @cons c name columns names hc rest ih =>
    obtain ⟨texts, rfl⟩ := ih (mapM_eq_ok.2 rest)
    split at hc
    · cases hc
      exact ⟨by simpa using texts, rfl⟩
    · cases hc
      exact ⟨by simpa using texts, rfl⟩
    · cases hc

theorem columnList_eq_ok {columns : List Value} {names : String}
    (h : columnList columns = .ok names) :
    names = if columns.isEmpty then "*" else ", ".intercalate (columns.map Value.shown) := by
  unfold columnList at h
  split at h
  · rename_i none
    rw [if_pos none, pure_eq_ok.1 h]
  · rename_i some
    obtain ⟨parts, hparts, rfl⟩ := map_eq_ok.1 h
    rw [if_neg some, (columnNames_eq_ok hparts).2]

namespace Clauses

def sorting (c : Clauses) : List Piece :=
  if c.order.truthy then [.word (" ORDER BY " ++ c.order.shown ++ " " ++ c.direction.word)] else []

def cutting (c : Clauses) : List Piece :=
  match c.limit with
  | .null => []
  | limit =>
    .word (" LIMIT " ++ decimal limit) ::
      if c.offset.truthy then [.word (" OFFSET " ++ decimal c.offset)] else []

private theorem orderClause_eq_ok {c : Clauses} {ps : List Piece} (h : c.orderClause = .ok ps) :
    ps = c.sorting := by
  unfold orderClause at h
  unfold sorting
  split at h
  · rename_i sorted
    rw [if_pos sorted]
    split at h
    · rename_i shown hshown
      rw [← pure_eq_ok.1 h, Value.shown, hshown]
      rfl
    · cases h
  · rename_i unsorted
    rw [if_neg unsorted, pure_eq_ok.1 h]

private theorem cutClause_eq_ok {c : Clauses} {ps : List Piece} (h : c.cutClause = .ok ps) :
    ps = c.cutting := by
  unfold cutClause at h
  unfold cutting
  split
  · rename_i all
    rw [all] at h
    exact (pure_eq_ok.1 h).symm
  · split at h
    · contradiction
    obtain ⟨limit, hlimit, h⟩ := bind_eq_ok.1 h
    obtain ⟨offset, hoffset, h⟩ := bind_eq_ok.1 h
    obtain ⟨n, hn, _, rfl⟩ := countClause_eq_ok.1 hlimit
    simp only [← pure_eq_ok.1 h, decimal, hn]
    unfold offsetClause at hoffset
    split at hoffset
    · rename_i skipping
      obtain ⟨m, hm, _, rfl⟩ := countClause_eq_ok.1 hoffset
      rw [if_pos skipping, hm]
      rfl
    · rename_i all
      rw [if_neg all, ← pure_eq_ok.1 hoffset]
      rfl

theorem pieces_eq_ok {c : Clauses} {ps : List Piece} (h : c.pieces = .ok ps) :
    ps = whereClause c.filter ++ c.groupClause ++ c.sorting ++ c.cutting := by
  obtain ⟨order, horder, h⟩ := bind_eq_ok.1 h
  obtain ⟨cut, hcut, h⟩ := bind_eq_ok.1 h
  rw [← pure_eq_ok.1 h, orderClause_eq_ok horder, cutClause_eq_ok hcut]

end Clauses

theorem Select.pieces_eq_ok {columns : List Value} {source : Source} {joins : List Join}
    {clauses : Clauses} {ps : List Piece}
    (h : (Select.mk columns source joins clauses).pieces = .ok ps) :
    ∃ names from_ joined rest, columnList columns = .ok names ∧ source.pieces = .ok from_ ∧
      Join.allPieces joins = .ok joined ∧ clauses.pieces = .ok rest ∧
      ps = .word ("SELECT " ++ names ++ " FROM ") :: from_ ++ joined ++ rest := by
  cases source with
  | missing => cases h
  | table name | subquery q label =>
    rw [Select.pieces] at h
    · obtain ⟨names, hnames, h⟩ := bind_eq_ok.1 h
      obtain ⟨from_, hfrom, h⟩ := bind_eq_ok.1 h
      obtain ⟨joined, hjoined, h⟩ := bind_eq_ok.1 h
      obtain ⟨rest, hrest, h⟩ := bind_eq_ok.1 h
      exact ⟨names, from_, joined, rest, hnames, hfrom, hjoined, hrest, (pure_eq_ok.1 h).symm⟩
    · exact fun h => by cases h

theorem Source.pieces_subquery_eq_ok {q : Select} {label : String} {ps : List Piece}
    (h : (Source.subquery q label).pieces = .ok ps) :
    ∃ inner, q.pieces = .ok inner ∧ ps = .word "(" :: inner ++ [.word (") AS " ++ label)] := by
  obtain ⟨inner, hinner, h⟩ := bind_eq_ok.1 h
  exact ⟨inner, hinner, (pure_eq_ok.1 h).symm⟩

theorem Join.pieces_eq_ok {q : Select} {label localColumn foreignColumn : String} {ps : List Piece}
    (h : (Join.left q label localColumn foreignColumn).pieces = .ok ps) :
    ∃ inner, q.pieces = .ok inner ∧ ps = .word " LEFT JOIN (" :: inner ++
      [.word (") AS " ++ label ++ " ON " ++ localColumn ++ " = " ++ foreignColumn)] := by
  obtain ⟨inner, hinner, h⟩ := bind_eq_ok.1 h
  exact ⟨inner, hinner, (pure_eq_ok.1 h).symm⟩

theorem Join.allPieces_cons_eq_ok {j : Join} {js : List Join} {ps : List Piece}
    (h : Join.allPieces (j :: js) = .ok ps) :
    ∃ first rest, j.pieces = .ok first ∧ Join.allPieces js = .ok rest ∧ ps = first ++ rest := by
  obtain ⟨first, hfirst, h⟩ := bind_eq_ok.1 h
  obtain ⟨rest, hrest, h⟩ := bind_eq_ok.1 h
  exact ⟨first, rest, hfirst, hrest, (pure_eq_ok.1 h).symm⟩

theorem Update.pieces_eq_ok {q : Update} {ps : List Piece} (h : q.pieces = .ok ps) :
    ∃ assignments, List.Forall₂ (fun e a => Update.assignment e = .ok a) q.values.entries assignments ∧
      ps = .word ("UPDATE " ++ q.table ++ " SET ") :: separatedBy ", " assignments ++
        whereClause q.filter ++ Insert.returningClause q.returning := by
  obtain ⟨assignments, hassignments, h⟩ := bind_eq_ok.1 h
  exact ⟨assignments, mapM_eq_ok.1 hassignments, (pure_eq_ok.1 h).symm⟩

end RecordMapper.Sql
