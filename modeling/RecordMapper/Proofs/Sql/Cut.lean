import RecordMapper.Proofs.Sql.Command

/-!
The cut of a query. A limit and an offset are written behind all else, as whole numbers, by the query
that has them, be it the outermost or one inside it.
-/
namespace RecordMapper.Sql

mutual

/-- A query and the queries inside it, at any depth. -/
def Select.queries : Select → List Select
  | .mk columns source joins clauses =>
    .mk columns source joins clauses :: (source.queries ++ Join.allQueries joins)
termination_by structural q => q

def Source.queries : Source → List Select
  | .missing => []
  | .table _ => []
  | .subquery q _ => q.queries
termination_by structural s => s

def Join.queries : Join → List Select
  | .left q _ _ _ => q.queries
termination_by structural j => j

def Join.allQueries : List Join → List Select
  | [] => []
  | j :: js => j.queries ++ Join.allQueries js
termination_by structural js => js

end

mutual

/-- What a query inside another one writes is written by the other one too. -/
theorem pieces_of_mem_queries : (q : Select) → {ps : List Piece} → {inner : Select} →
    inner ∈ q.queries → q.pieces = .ok ps → ∃ part, inner.pieces = .ok part ∧ part <:+: ps
  | .mk columns source joins clauses, ps, inner, hmem, h => by
    obtain ⟨names, first, joined, rest, _, hfirst, hjoined, _, rfl⟩ := Select.pieces_eq_ok h
    rw [Select.queries, List.mem_cons, List.mem_append] at hmem
    rcases hmem with rfl | hmem | hmem
    · exact ⟨_, h, List.infix_refl _⟩
    · obtain ⟨part, hpart, before, after, rfl⟩ := pieces_of_mem_source source hmem hfirst
      exact ⟨part, hpart, .word ("SELECT " ++ names ++ " FROM ") :: before, after ++ joined ++ rest,
        by simp⟩
    · obtain ⟨part, hpart, before, after, rfl⟩ := pieces_of_mem_joins joins hmem hjoined
      exact ⟨part, hpart, .word ("SELECT " ++ names ++ " FROM ") :: first ++ before, after ++ rest,
        by simp⟩

theorem pieces_of_mem_source : (source : Source) → {ps : List Piece} → {inner : Select} →
    inner ∈ source.queries → source.pieces = .ok ps → ∃ part, inner.pieces = .ok part ∧ part <:+: ps
  | .missing, ps, inner, hmem, h => by cases h
  | .table name, ps, inner, hmem, h => nomatch hmem
  | .subquery q label, ps, inner, hmem, h => by
    obtain ⟨middle, hmiddle, rfl⟩ := Source.pieces_subquery_eq_ok h
    obtain ⟨part, hpart, infix_⟩ := pieces_of_mem_queries q hmem hmiddle
    exact ⟨part, hpart, infix_.trans ⟨[_], _, rfl⟩⟩

theorem pieces_of_mem_join : (j : Join) → {ps : List Piece} → {inner : Select} →
    inner ∈ j.queries → j.pieces = .ok ps → ∃ part, inner.pieces = .ok part ∧ part <:+: ps
  | .left q label localColumn foreignColumn, ps, inner, hmem, h => by
    obtain ⟨middle, hmiddle, rfl⟩ := Join.pieces_eq_ok h
    obtain ⟨part, hpart, infix_⟩ := pieces_of_mem_queries q hmem hmiddle
    exact ⟨part, hpart, infix_.trans ⟨[_], _, rfl⟩⟩

theorem pieces_of_mem_joins : (js : List Join) → {ps : List Piece} → {inner : Select} →
    inner ∈ Join.allQueries js → Join.allPieces js = .ok ps →
    ∃ part, inner.pieces = .ok part ∧ part <:+: ps
  | [], ps, inner, hmem, h => nomatch hmem
  | j :: js, ps, inner, hmem, h => by
    obtain ⟨first, rest, hfirst, hrest, rfl⟩ := Join.allPieces_cons_eq_ok h
    rcases List.mem_append.1 hmem with hmem | hmem
    · obtain ⟨part, hpart, infix_⟩ := pieces_of_mem_join j hmem hfirst
      exact ⟨part, hpart, List.infix_append_of_infix_left infix_⟩
    · obtain ⟨part, hpart, infix_⟩ := pieces_of_mem_joins js hmem hrest
      exact ⟨part, hpart, List.infix_append_of_infix_right infix_⟩

end

def Clauses.uncut (c : Clauses) : Clauses := { c with limit := .null, offset := .null }

/-- What a limit and an offset write, if they are counts at all. -/
inductive Clauses.Cuts (c : Clauses) : String → Prop
  | all (unlimited : c.limit = .null) : c.Cuts ""
  | first {n : Int} (limit : c.limit.toInteger = .ok n) (start : c.offset.truthy = false) :
      c.Cuts (" LIMIT " ++ toString n)
  | later {n m : Int} (limit : c.limit.toInteger = .ok n) (offset : c.offset.toInteger = .ok m) :
      c.Cuts (" LIMIT " ++ toString n ++ " OFFSET " ++ toString m)

def Select.clauses : Select → Clauses
  | .mk _ _ _ clauses => clauses

def Select.uncut (q : Select) : Select := q.mapClauses Clauses.uncut

namespace Clauses

private theorem textFrom_cutting {c : Clauses} {ps : List Piece} (h : c.cutClause = .ok ps) :
    ∃ cut, c.Cuts cut ∧ ∀ n, textFrom n ps = cut.toList := by
  unfold cutClause at h
  split at h
  · rename_i unlimited
    exact ⟨"", .all unlimited, fun n => by rw [← pure_eq_ok.1 h]; rfl⟩
  · obtain ⟨limit, hlimit, h⟩ := bind_eq_ok.1 h
    obtain ⟨offset, hoffset, h⟩ := bind_eq_ok.1 h
    obtain ⟨n, hn, _, rfl⟩ := countClause_eq_ok.1 hlimit
    rw [← pure_eq_ok.1 h]
    unfold offsetClause at hoffset
    split at hoffset
    · obtain ⟨m, hm, _, rfl⟩ := countClause_eq_ok.1 hoffset
      exact ⟨_, .later hn hm, fun k => by simp [textFrom]⟩
    · rename_i start
      rw [← pure_eq_ok.1 hoffset]
      exact ⟨_, .first hn (Bool.not_eq_true _ ▸ start), fun k => by simp [textFrom]⟩

theorem pieces_uncut {c : Clauses} {ps : List Piece} (h : c.pieces = .ok ps) :
    ∃ front cut, c.uncut.pieces = .ok front ∧ c.Cuts cut ∧
      ∀ n, textFrom n ps = textFrom n front ++ cut.toList := by
  obtain ⟨order, horder, h⟩ := bind_eq_ok.1 h
  obtain ⟨last, hlast, h⟩ := bind_eq_ok.1 h
  obtain ⟨cut, hcut, text⟩ := textFrom_cutting hlast
  have front : c.uncut.pieces = .ok (whereClause c.filter ++ c.groupClause ++ order ++ []) :=
    bind_eq_ok.2 ⟨order, horder, rfl⟩
  refine ⟨_, cut, front, hcut, fun n => ?_⟩
  rw [← pure_eq_ok.1 h, List.append_nil, textFrom_append, text]

end Clauses

theorem Select.pieces_mapClauses {q : Select} {ps : List Piece} (h : q.pieces = .ok ps) :
    ∃ front rest, q.clauses.pieces = .ok rest ∧ ps = front ++ rest ∧
      ∀ (f : Clauses → Clauses) (other : List Piece), (f q.clauses).pieces = .ok other →
        (q.mapClauses f).pieces = .ok (front ++ other) := by
  obtain ⟨columns, source, joins, clauses⟩ := q
  obtain ⟨names, first, joined, rest, hnames, hfirst, hjoined, hrest, rfl⟩ := Select.pieces_eq_ok h
  refine ⟨.word ("SELECT " ++ names ++ " FROM ") :: first ++ joined, rest, hrest, rfl, ?_⟩
  intro f other hother
  change (Select.mk columns source joins (f clauses)).pieces = _
  change (f clauses).pieces = _ at hother
  cases source with
  | missing => cases hfirst
  | table name | subquery q label =>
    rw [Select.pieces, hnames, hfirst, hjoined, hother]
    · rfl
    · exact fun none => by cases none

theorem Select.pieces_uncut {q : Select} {ps : List Piece} (h : q.pieces = .ok ps) :
    ∃ front cut, q.uncut.pieces = .ok front ∧ q.clauses.Cuts cut ∧
      ∀ n, textFrom n ps = textFrom n front ++ cut.toList := by
  obtain ⟨start, rest, hrest, rfl, others⟩ := Select.pieces_mapClauses h
  obtain ⟨front, cut, hfront, hcut, text⟩ := Clauses.pieces_uncut hrest
  refine ⟨start ++ front, cut, others Clauses.uncut front hfront, hcut, fun n => ?_⟩
  rw [textFrom_append, textFrom_append, text, List.append_assoc]

/-- Wherever a query stands in a statement, its cut stands behind the query without a cut. -/
theorem cut_of_mem_queries {q inner : Select} {s : Statement} (mem : inner ∈ q.queries)
    (h : q.render = .ok s) :
    ∃ n front cut, inner.uncut.pieces = .ok front ∧ inner.clauses.Cuts cut ∧
      textFrom n front ++ cut.toList <:+: s.text.toList := by
  rw [q.render_eq] at h
  obtain ⟨ps, hps, hs⟩ := bind_eq_ok.1 h
  obtain ⟨part, hpart, before, after, rfl⟩ := pieces_of_mem_queries q mem hps
  obtain ⟨front, cut, hfront, hcut, text⟩ := Select.pieces_uncut hpart
  refine ⟨(boundValues before).length, front, cut, hfront, hcut, textFrom 0 before,
    textFrom (boundValues (before ++ part)).length after, ?_⟩
  rw [← pure_eq_ok.1 hs, Statement.ofPieces, String.toList_ofList, textFrom_append, textFrom_append,
    text, Nat.zero_add, Nat.zero_add]

end RecordMapper.Sql
