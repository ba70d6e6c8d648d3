import RecordMapper.Proofs.Sql.Insertion

/-!
Statements written out with their values. This is how a statement reads to someone for whom values
could stand in a text: each value is written at its own condition, assignment or cell, without
placeholders and without numbers. Main statement: the pieces of a statement are what is written so.
-/
namespace RecordMapper.Sql

/-- A character, or a value in its place. -/
inductive Token
  | char (c : Char)
  | value (v : Value)

def written (s : String) : List Token := s.toList.map .char

@[simp] theorem written_append (s t : String) : written (s ++ t) = written s ++ written t := by
  simp [written]

@[simp] theorem written_empty : written "" = [] := rfl

def listing (separator : String) : List (List Token) → List Token
  | [] => []
  | [part] => part
  | part :: parts => part ++ written separator ++ listing separator parts

/-- A value as it is stored: a map as its JSON text. -/
def storedForm (v : Value) : Value :=
  match v with
  | .dict es => ((Json.render (.dict es)).map Value.text).toOption.getD v
  | v => v

theorem stored_eq_ok {v w : Value} (h : stored v = .ok w) : w = storedForm v := by
  cases v with
  | dict es =>
    obtain ⟨s, hs, h⟩ := bind_eq_ok.1 h
    rw [storedForm, hs, ← pure_eq_ok.1 h]
    rfl
  | _ => exact (pure_eq_ok.1 h).symm

namespace Direct

def condition (e : Value × Value) : List Token :=
  match e.2 with
  | .null => written (e.1.shown ++ " IS NULL")
  | .list vs | .tuple vs | .set _ vs =>
    if vs.isEmpty then written "FALSE"
    else written (e.1.shown ++ " IN (") ++ listing ", " (vs.map fun v => [.value v]) ++ written ")"
  | v => written (e.1.shown ++ " = ") ++ [.value v]

def filter (m : Mapping) : List Token :=
  if m.isEmpty then [] else written " WHERE " ++ listing " AND " (m.entries.map condition)

def clauses (c : Clauses) : List Token :=
  filter c.filter ++
  (if c.group = "" then [] else written (" GROUP BY " ++ c.group)) ++
  (if c.order.truthy then written (" ORDER BY " ++ c.order.shown ++ " " ++ c.direction.word) else []) ++
  match c.limit with
  | .null => []
  | limit =>
    written (" LIMIT " ++ decimal limit) ++
      if c.offset.truthy then written (" OFFSET " ++ decimal c.offset) else []

def columns (cs : List Value) : List Token :=
  if cs.isEmpty then written "*" else written (", ".intercalate (cs.map Value.shown))

mutual

def select : Select → List Token
  | .mk cs source joins rest =>
    written "SELECT " ++ columns cs ++ written " FROM " ++ sources source ++ allJoins joins ++
      clauses rest
termination_by structural q => q

def sources : Source → List Token
  | .missing => []
  | .table name => written name
  | .subquery q label => written "(" ++ select q ++ written (") AS " ++ label)
termination_by structural s => s

def join : Join → List Token
  | .left q label localColumn foreignColumn =>
    written " LEFT JOIN (" ++ select q ++
      written (") AS " ++ label ++ " ON " ++ localColumn ++ " = " ++ foreignColumn)
termination_by structural j => j

def allJoins : List Join → List Token
  | [] => []
  | j :: js => join j ++ allJoins js
termination_by structural js => js

end

def returning (yes : Bool) : List Token := if yes then written " RETURNING *" else []

def cell (row column : Value) : List Token :=
  match cell? row column with
  | some v => [.value (storedForm v)]
  | none => written "DEFAULT"

def row (cs : List Value) (r : Value) : List Token :=
  written "(" ++ listing ", " (cs.map (cell r)) ++ written ")"

def conflict (cs keys : List Value) : List Token :=
  let updates := cs.filter fun c => !c.isIn keys
  if keys.isEmpty then []
  else written (" ON CONFLICT (" ++ ", ".intercalate (keys.map Value.shown) ++ ")") ++
    if updates.isEmpty then written " DO NOTHING"
    else written " DO UPDATE SET " ++
      written (", ".intercalate (updates.map fun c => c.shown ++ " = EXCLUDED." ++ c.shown))

def insert (q : Insert) : List Token :=
  let cs := firstMentions (q.rows.flatMap listed)
  (if cs.isEmpty then written ("INSERT INTO " ++ q.table ++ " DEFAULT VALUES")
    else written ("INSERT INTO " ++ q.table ++ " (" ++ ", ".intercalate (cs.map Value.shown) ++
      ") VALUES ") ++ listing ", " (q.rows.map (row cs))) ++
  conflict cs q.conflictKeys ++ returning q.returning

def update (q : Update) : List Token :=
  written ("UPDATE " ++ q.table ++ " SET ") ++
    listing ", " (q.values.entries.map fun e =>
      written (e.1.shown ++ " = ") ++ [.value (storedForm e.2)]) ++
    filter q.filter ++ returning q.returning

def delete (q : Delete) : List Token :=
  written ("DELETE FROM " ++ q.table) ++ filter q.filter

end Direct

def Command.direct : Command → List Token
  | select q => Direct.select q
  | insert q => Direct.insert q
  | update q => Direct.update q
  | delete q => Direct.delete q

def Piece.tokens : Piece → List Token
  | word s => written s
  | bind v => [.value v]

def tokens (ps : List Piece) : List Token := ps.flatMap Piece.tokens

@[simp] theorem tokens_nil : tokens [] = [] := rfl

@[simp] theorem tokens_word (s : String) (ps : List Piece) :
    tokens (.word s :: ps) = written s ++ tokens ps := rfl

@[simp] theorem tokens_bind (v : Value) (ps : List Piece) :
    tokens (.bind v :: ps) = .value v :: tokens ps := rfl

@[simp] theorem tokens_append (ps qs : List Piece) : tokens (ps ++ qs) = tokens ps ++ tokens qs := by
  simp [tokens]

theorem tokens_separatedBy (separator : String) (pss : List (List Piece)) :
    tokens (separatedBy separator pss) = listing separator (pss.map tokens) := by
  induction pss with
  | nil => rfl
  | cons ps rest ih =>
    cases rest with
    | nil => rfl
    | cons qs rest =>
      rw [separatedBy_cons_cons, tokens_append, tokens_word, ih, ← List.append_assoc]
      rfl

theorem tokens_condition (e : Value × Value) :
    tokens ((Condition.ofValue e.2).pieces e.1.shown) = Direct.condition e := by
  obtain ⟨column, v⟩ := e
  have members (vs : List Value) :
      tokens (separatedBy ", " (vs.map fun v => [.bind v])) =
        listing ", " (vs.map fun v => [.value v]) := by
    rw [tokens_separatedBy, List.map_map]
    rfl
  cases v with
  | list vs | tuple vs | set frozen vs =>
    cases vs with
    | nil => rfl
    | cons v vs =>
      simpa [Condition.ofValue, Condition.pieces, Direct.condition] using members (v :: vs)
  | _ => simp [Condition.ofValue, Condition.pieces, Direct.condition]

theorem tokens_whereClause (filter : Mapping) : tokens (whereClause filter) = Direct.filter filter := by
  unfold whereClause Direct.filter
  split
  · rfl
  · rw [tokens_word, tokens_separatedBy, conjuncts, List.map_map]
    congr 3
    funext e
    exact tokens_condition e

theorem tokens_clauses {c : Clauses} {ps : List Piece} (h : c.pieces = .ok ps) :
    tokens ps = Direct.clauses c := by
  rw [Clauses.pieces_eq_ok h]
  simp only [tokens_append, tokens_whereClause, Direct.clauses]
  congr 1
  · congr 1
    · congr 1
      by_cases plain : c.group = "" <;> simp [Clauses.groupClause, plain]
    · unfold Clauses.sorting
      split <;> simp
  · unfold Clauses.cutting
    split
    · simp_all
    · rw [tokens_word]
      split <;> simp

theorem tokens_columnList {columns : List Value} {names : String} (h : columnList columns = .ok names) :
    written names = Direct.columns columns := by
  rw [columnList_eq_ok h, Direct.columns]
  split <;> rfl

mutual

theorem tokens_select : (q : Select) → {ps : List Piece} → q.pieces = .ok ps →
    tokens ps = Direct.select q
  | .mk columns source joins clauses, ps, h => by
    obtain ⟨names, first, joined, rest, hnames, hfirst, hjoined, hrest, rfl⟩ := Select.pieces_eq_ok h
    simp only [List.cons_append, tokens_word, tokens_append, written_append, Direct.select,
      tokens_columnList hnames, tokens_source source hfirst, tokens_joins joins hjoined,
      tokens_clauses hrest, List.append_assoc]

theorem tokens_source : (source : Source) → {ps : List Piece} → source.pieces = .ok ps →
    tokens ps = Direct.sources source
  | .missing, ps, h => by cases h
  | .table name, ps, h => by
    rw [← pure_eq_ok.1 h, Direct.sources, tokens_word, tokens_nil, List.append_nil]
  | .subquery q label, ps, h => by
    obtain ⟨inner, hinner, rfl⟩ := Source.pieces_subquery_eq_ok h
    simp [Direct.sources, tokens_select q hinner]

theorem tokens_join : (j : Join) → {ps : List Piece} → j.pieces = .ok ps →
    tokens ps = Direct.join j
  | .left q label localColumn foreignColumn, ps, h => by
    obtain ⟨inner, hinner, rfl⟩ := Join.pieces_eq_ok h
    simp [Direct.join, tokens_select q hinner]

theorem tokens_joins : (js : List Join) → {ps : List Piece} → Join.allPieces js = .ok ps →
    tokens ps = Direct.allJoins js
  | [], ps, h => by
    rw [← pure_eq_ok.1 h]
    rfl
  | j :: js, ps, h => by
    obtain ⟨first, rest, hfirst, hrest, rfl⟩ := Join.allPieces_cons_eq_ok h
    rw [tokens_append, tokens_join j hfirst, tokens_joins js hrest, Direct.allJoins]

end

theorem tokens_returningClause (yes : Bool) :
    tokens (Insert.returningClause yes) = Direct.returning yes := by
  cases yes <;> rfl

theorem tokens_cell {row column : Value} {ps : List Piece} (text : column.isText)
    (h : Insert.cellPieces row column = .ok ps) : tokens ps = Direct.cell row column := by
  unfold Direct.cell
  rcases Insert.cellPieces_eq_ok text h with ⟨absent, rfl⟩ | ⟨v, w, found, hw, rfl⟩
  · rw [absent]
    rfl
  · rw [found, stored_eq_ok hw]
    rfl

theorem tokens_row {columns : List Value} {row : Value} {ps : List Piece}
    (texts : ∀ c ∈ columns, c.isText) (h : Insert.rowPieces columns row = .ok ps) :
    tokens ps = Direct.row columns row := by
  obtain ⟨cells, hcells, rfl⟩ := Insert.rowPieces_eq_ok h
  have each : cells.map tokens = columns.map (Direct.cell row) :=
    map_eq_of_forall₂ hcells fun c hc ps hps => tokens_cell (texts c hc) hps
  simp [Direct.row, tokens_separatedBy, each]

theorem tokens_conflicting (columns keys : List Value) :
    tokens (Insert.conflicting columns keys) = Direct.conflict columns keys := by
  unfold Insert.conflicting Insert.conflictAction Direct.conflict
  dsimp only
  split
  · rfl
  · split <;> simp

theorem tokens_insert {q : Insert} {ps : List Piece} (h : q.pieces = .ok ps) :
    tokens ps = Direct.insert q := by
  obtain ⟨columns, rows, hcolumns, hrows, rfl⟩ := Insert.pieces_eq_ok h
  rw [tokens_append, tokens_append, tokens_conflicting, tokens_returningClause, Direct.insert]
  rcases Insert.rowsClause_eq_ok hrows with ⟨rfl, rfl⟩ | ⟨some, texts, parts, hparts, rfl⟩
  · have none := Insert.unionColumns_eq_ok hcolumns (fun c hc => nomatch hc)
    simp [← none]
  · have each : parts.map tokens = q.rows.map (Direct.row columns) :=
      map_eq_of_forall₂ hparts fun row _ ps hps => tokens_row texts hps
    simp [← Insert.unionColumns_eq_ok hcolumns texts, some, tokens_separatedBy, each]

theorem tokens_update {q : Update} {ps : List Piece} (h : q.pieces = .ok ps) :
    tokens ps = Direct.update q := by
  obtain ⟨assignments, hassignments, rfl⟩ := Update.pieces_eq_ok h
  have each : assignments.map tokens = q.values.entries.map fun e =>
      written (e.1.shown ++ " = ") ++ [.value (storedForm e.2)] := by
    refine map_eq_of_forall₂ hassignments fun e _ ps hps => ?_
    obtain ⟨w, hw, hps⟩ := bind_eq_ok.1 hps
    rw [← pure_eq_ok.1 hps, stored_eq_ok hw]
    rfl
  simp [Direct.update, tokens_separatedBy, each, tokens_whereClause, tokens_returningClause]

/-- The pieces of a statement write it out with its values. -/
theorem tokens_pieces {c : Command} {ps : List Piece} (h : c.pieces = .ok ps) :
    tokens ps = c.direct := by
  cases c with
  | select q => exact tokens_select q h
  | insert q => exact tokens_insert h
  | update q => exact tokens_update h
  | delete q =>
    rw [← pure_eq_ok.1 h, Delete.pieces, tokens_word, tokens_whereClause]
    rfl

end RecordMapper.Sql
