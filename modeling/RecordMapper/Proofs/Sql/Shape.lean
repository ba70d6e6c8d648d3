import RecordMapper.Proofs.Sql.Cut
import RecordMapper.Proofs.Sql.Direct

/-!
Values stay out of the text. Two statements that differ in their values only, where the values of
conditions are of the same shapes, have the same text.
-/
namespace RecordMapper.Sql

/-! A text is known from what its statement writes, with the values left blank. -/

def Token.blank : Token → Option Char
  | char c => some c
  | value _ => none

def blanked (ts : List Token) : List (Option Char) := ts.map Token.blank

@[simp] theorem blanked_append (ts us : List Token) : blanked (ts ++ us) = blanked ts ++ blanked us :=
  List.map_append

@[simp] theorem blanked_value (v : Value) : blanked [.value v] = [none] := rfl

def filledFrom : Nat → List (Option Char) → List Char
  | _, [] => []
  | n, some c :: cs => c :: filledFrom n cs
  | n, none :: cs => placeholder n ++ filledFrom (n + 1) cs

private theorem filledFrom_written (n : Nat) (s : String) (cs : List (Option Char)) :
    filledFrom n (blanked (written s) ++ cs) = s.toList ++ filledFrom n cs := by
  unfold written blanked
  induction s.toList with
  | nil => rfl
  | cons c rest ih => exact congrArg (c :: ·) ih

theorem textFrom_eq_filledFrom (n : Nat) (ps : List Piece) :
    textFrom n ps = filledFrom n (blanked (tokens ps)) := by
  induction ps generalizing n with
  | nil => rfl
  | cons p ps ih =>
    cases p with
    | word s => rw [textFrom, ih, tokens_word, blanked_append, filledFrom_written]
    | bind v => exact congrArg (placeholder n ++ ·) (ih (n + 1))

theorem length_boundValues (ps : List Piece) :
    (boundValues ps).length = (blanked (tokens ps)).count none := by
  have written_count (s : String) : (blanked (written s)).count none = 0 := by
    rw [List.count_eq_zero, written, blanked, List.map_map]
    intro h
    obtain ⟨c, _, hc⟩ := List.mem_map.1 h
    cases hc
  induction ps with
  | nil => rfl
  | cons p ps ih =>
    cases p with
    | word s => rw [boundValues, ih, tokens_word, blanked_append, List.count_append, written_count, Nat.zero_add]
    | bind v => simp [boundValues, ih, blanked, Token.blank]

/-- Statements that write the same but for their values have the same text. -/
private theorem ofPieces_of_blanked {ps qs : List Piece} (h : blanked (tokens ps) = blanked (tokens qs)) :
    (Statement.ofPieces ps).text = (Statement.ofPieces qs).text ∧
      (Statement.ofPieces ps).values.length = (Statement.ofPieces qs).values.length := by
  constructor
  · rw [Statement.ofPieces, Statement.ofPieces, textFrom_eq_filledFrom, textFrom_eq_filledFrom, h]
  · change (boundValues ps).length = (boundValues qs).length
    rw [length_boundValues, length_boundValues, h]

theorem blanked_listing (separator : String) {parts parts' : List (List Token)}
    (h : List.Forall₂ (fun p p' => blanked p = blanked p') parts parts') :
    blanked (listing separator parts) = blanked (listing separator parts') := by
  induction h with
  | nil => rfl
  | cons first rest ih =>
    cases rest with
    | nil => exact first
    | cons => simp only [listing, blanked_append, first, ih]

/-! Statements that differ in their values only. -/

/-- All that a condition tells about its value. -/
inductive Shape
  | null
  | members (count : Nat)
  | single
deriving DecidableEq

def Shape.ofValue : Value → Shape
  | .null => null
  | .list vs | .tuple vs | .set _ vs => members vs.length
  | _ => single

/-- Conditions on the same columns, with values of the same shapes. -/
def AlikeFilters (m m' : Mapping) : Prop :=
  List.Forall₂ (fun e e' => e.1 = e'.1 ∧ Shape.ofValue e.2 = Shape.ofValue e'.2) m.entries m'.entries

/-- The same clauses but for the values in the conditions. -/
structure Clauses.Alike (c c' : Clauses) : Prop where
  filter : AlikeFilters c.filter c'.filter
  group : c.group = c'.group
  order : c.order = c'.order
  direction : c.direction = c'.direction
  limit : c.limit = c'.limit
  offset : c.offset = c'.offset

mutual

inductive Select.Alike : Select → Select → Prop
  | mk (columns : List Value) {source source' : Source} {joins joins' : List Join}
      {clauses clauses' : Clauses} (sources : source.Alike source') (joined : Join.AllAlike joins joins')
      (rest : clauses.Alike clauses') :
      Select.Alike (.mk columns source joins clauses) (.mk columns source' joins' clauses')

inductive Source.Alike : Source → Source → Prop
  | missing : Source.Alike .missing .missing
  | table (name : String) : Source.Alike (.table name) (.table name)
  | subquery {q q' : Select} (inner : q.Alike q') (label : String) :
      Source.Alike (.subquery q label) (.subquery q' label)

inductive Join.Alike : Join → Join → Prop
  | left {q q' : Select} (inner : q.Alike q') (label localColumn foreignColumn : String) :
      Join.Alike (.left q label localColumn foreignColumn) (.left q' label localColumn foreignColumn)

inductive Join.AllAlike : List Join → List Join → Prop
  | nil : Join.AllAlike [] []
  | cons {j j' : Join} {js js' : List Join} (first : j.Alike j') (rest : Join.AllAlike js js') :
      Join.AllAlike (j :: js) (j' :: js')

end

inductive AlikeRows : Value → Value → Prop
  | dict {es es' : Entries} (columns : es.map (·.1) = es'.map (·.1)) : AlikeRows (.dict es) (.dict es')

/-- Statements of one kind that differ in their values only. -/
inductive Command.Alike : Command → Command → Prop
  | select {q q' : Select} (h : q.Alike q') : Command.Alike (.select q) (.select q')
  | insert (table : String) {rows rows' : List Value} (h : List.Forall₂ AlikeRows rows rows')
      (conflictKeys : List Value) (returning : Bool) :
      Command.Alike (.insert ⟨table, rows, conflictKeys, returning⟩)
        (.insert ⟨table, rows', conflictKeys, returning⟩)
  | update (table : String) {values values' filter filter' : Mapping}
      (columns : values.keys = values'.keys) (h : AlikeFilters filter filter') (returning : Bool) :
      Command.Alike (.update ⟨table, values, filter, returning⟩)
        (.update ⟨table, values', filter', returning⟩)
  | delete (table : String) {filter filter' : Mapping} (h : AlikeFilters filter filter') :
      Command.Alike (.delete ⟨table, filter⟩) (.delete ⟨table, filter'⟩)

def Shape.condition (column : String) : Shape → List (Option Char)
  | null => blanked (written (column ++ " IS NULL"))
  | members 0 => blanked (written "FALSE")
  | members n =>
    blanked (written (column ++ " IN (")) ++
      blanked (listing ", " (List.replicate n [.value .null])) ++ blanked (written ")")
  | single => blanked (written (column ++ " = ")) ++ [none]

theorem blanked_condition (e : Value × Value) :
    blanked (Direct.condition e) = (Shape.ofValue e.2).condition e.1.shown := by
  obtain ⟨column, v⟩ := e
  have members (vs : List Value) : blanked (listing ", " (vs.map fun v => [.value v])) =
      blanked (listing ", " (List.replicate vs.length [.value .null])) := by
    apply blanked_listing
    induction vs with
    | nil => exact .nil
    | cons v vs ih => exact .cons rfl ih
  cases v with
  | list vs | tuple vs | set frozen vs =>
    cases vs with
    | nil => rfl
    | cons v vs =>
      simp only [Direct.condition, List.isEmpty_cons, Bool.false_eq_true, if_false, blanked_append,
        members]
      rfl
  | null => rfl
  | _ => exact blanked_append _ _

theorem blanked_filter {m m' : Mapping} (h : AlikeFilters m m') :
    blanked (Direct.filter m) = blanked (Direct.filter m') := by
  have conditions : List.Forall₂ (fun p p' => blanked p = blanked p')
      (m.entries.map Direct.condition) (m'.entries.map Direct.condition) := by
    rw [List.forall₂_map_left_iff, List.forall₂_map_right_iff]
    refine h.imp fun e e' same => ?_
    rw [blanked_condition, blanked_condition, same.1, same.2]
  have size : m.isEmpty = m'.isEmpty := by
    rw [Bool.eq_iff_iff, OrderedMap.isEmpty, OrderedMap.isEmpty, List.isEmpty_iff_length_eq_zero,
      List.isEmpty_iff_length_eq_zero, h.length_eq]
  unfold Direct.filter
  rw [size]
  split
  · rfl
  · rw [blanked_append, blanked_append, blanked_listing _ conditions]

theorem blanked_clauses {c c' : Clauses} (h : c.Alike c') :
    blanked (Direct.clauses c) = blanked (Direct.clauses c') := by
  simp only [Direct.clauses, blanked_append, blanked_filter h.filter, h.group, h.order, h.direction,
    h.limit, h.offset]

mutual

theorem blanked_select {q q' : Select} : q.Alike q' →
    blanked (Direct.select q) = blanked (Direct.select q')
  | .mk columns sources joined rest => by
    simp only [Direct.select, blanked_append, blanked_source sources, blanked_joins joined,
      blanked_clauses rest]

theorem blanked_source {source source' : Source} : source.Alike source' →
    blanked (Direct.sources source) = blanked (Direct.sources source')
  | .missing => rfl
  | .table name => rfl
  | .subquery inner label => by
    simp only [Direct.sources, blanked_append, blanked_select inner]

theorem blanked_join {j j' : Join} : j.Alike j' →
    blanked (Direct.join j) = blanked (Direct.join j')
  | .left inner label localColumn foreignColumn => by
    simp only [Direct.join, blanked_append, blanked_select inner]

theorem blanked_joins {js js' : List Join} : Join.AllAlike js js' →
    blanked (Direct.allJoins js) = blanked (Direct.allJoins js')
  | .nil => rfl
  | .cons first rest => by
    simp only [Direct.allJoins, blanked_append, blanked_join first, blanked_joins rest]

end

private theorem cell?_of_alike {row row' : Value} (h : AlikeRows row row') (column : Value) :
    (cell? row column).isSome = (cell? row' column).isSome := by
  obtain ⟨columns⟩ := h
  have listed (es : Entries) :
      (cell? (.dict es) column).isSome = (es.map (·.1)).any (· == column) := by
    rw [cell?, Option.isSome_map, List.isSome_find?, List.any_map]
    rfl
  rw [listed, listed, columns]

theorem blanked_row (columns : List Value) {row row' : Value} (h : AlikeRows row row') :
    blanked (Direct.row columns row) = blanked (Direct.row columns row') := by
  have cell (column : Value) : blanked (Direct.cell row column) = blanked (Direct.cell row' column) := by
    have same := cell?_of_alike h column
    unfold Direct.cell
    cases found : cell? row column <;> cases found' : cell? row' column <;>
      simp [found, found'] at same ⊢
  have cells : List.Forall₂ (fun p p' => blanked p = blanked p')
      (columns.map (Direct.cell row)) (columns.map (Direct.cell row')) := by
    rw [List.forall₂_map_left_iff, List.forall₂_map_right_iff, List.forall₂_same]
    exact fun column _ => cell column
  simp only [Direct.row, blanked_append, blanked_listing _ cells]

private theorem listed_of_alike {rows rows' : List Value} (h : List.Forall₂ AlikeRows rows rows') :
    rows.flatMap listed = rows'.flatMap listed := by
  induction h with
  | nil => rfl
  | cons first _ ih =>
    obtain ⟨columns⟩ := first
    rw [List.flatMap_cons, List.flatMap_cons, ih]
    congr 1

theorem blanked_insert (table : String) {rows rows' : List Value}
    (h : List.Forall₂ AlikeRows rows rows') (keys : List Value) (returning : Bool) :
    blanked (Direct.insert ⟨table, rows, keys, returning⟩) =
      blanked (Direct.insert ⟨table, rows', keys, returning⟩) := by
  have cells (columns : List Value) : List.Forall₂ (fun p p' => blanked p = blanked p')
      (rows.map (Direct.row columns)) (rows'.map (Direct.row columns)) := by
    rw [List.forall₂_map_left_iff, List.forall₂_map_right_iff]
    exact h.imp fun _ _ => blanked_row columns
  simp only [Direct.insert, listed_of_alike h, blanked_append]
  congr 2
  split
  · rfl
  · rw [blanked_append, blanked_append, blanked_listing _ (cells _)]

theorem blanked_assignments {es es' : Entries} (h : es.map (·.1) = es'.map (·.1)) :
    List.Forall₂ (fun p p' => blanked p = blanked p')
      (es.map fun e => written (e.1.shown ++ " = ") ++ [.value (storedForm e.2)])
      (es'.map fun e => written (e.1.shown ++ " = ") ++ [.value (storedForm e.2)]) := by
  rw [← List.forall₂_eq_eq_eq, List.forall₂_map_left_iff, List.forall₂_map_right_iff] at h
  rw [List.forall₂_map_left_iff, List.forall₂_map_right_iff]
  refine h.imp fun e e' column => ?_
  rw [column, blanked_append, blanked_append, blanked_value, blanked_value]

theorem blanked_direct {c c' : Command} (h : c.Alike c') : blanked c.direct = blanked c'.direct := by
  cases h with
  | select h => exact blanked_select h
  | insert table h keys returning => exact blanked_insert table h keys returning
  | update table columns h returning =>
    have assignments := blanked_assignments columns
    simp only [Command.direct, Direct.update, blanked_append, blanked_listing _ assignments,
      blanked_filter h]
  | delete table h => simp only [Command.direct, Direct.delete, blanked_append, blanked_filter h]

/-- Statements that differ in their values only have the same text and as many values. A limit and an
offset are written as whole numbers, whatever was given for them and wherever their query stands. -/
theorem text_of_alike :
    (∀ (c c' : Command) (s s' : Statement), c.Alike c' → c.render = .ok s → c'.render = .ok s' →
      s.text = s'.text ∧ s.values.length = s'.values.length) ∧
    (∀ (q inner : Select) (s : Statement), inner ∈ q.queries → q.render = .ok s →
      ∃ n front cut, inner.uncut.pieces = .ok front ∧ inner.clauses.Cuts cut ∧
        textFrom n front ++ cut.toList <:+: s.text.toList) := by
  refine ⟨fun c c' s s' alike h h' => ?_, fun q inner s mem h => cut_of_mem_queries mem h⟩
  obtain ⟨ps, hps, rfl⟩ := Command.render_eq_ok h
  obtain ⟨ps', hps', rfl⟩ := Command.render_eq_ok h'
  apply ofPieces_of_blanked
  rw [tokens_pieces hps, tokens_pieces hps', blanked_direct alike]

def firstUsers (name : String) (a b : Value) : Select :=
  .mk [] (.table "users") []
    { filter := .ofEntries [(.text "name", .text name), (.text "age", .list [a, b])]
      limit := .text "10" }

def firstMembers (name : String) (a b : Value) : Select :=
  .mk [] (.subquery (firstUsers name a b) "u") [] {}

theorem render_firstMembers (name : String) (a b : Value) :
    (firstMembers name a b).render =
      .ok ⟨"SELECT * FROM (SELECT * FROM users WHERE name = :p_0 AND age IN (:p_1, :p_2) LIMIT 10) AS u",
        [.text name, a, b]⟩ := by
  have ten : (Value.text "10").toInteger = .ok 10 := rfl
  have short : Number.isOverlong 10 = false := by decide +kernel
  have cut : countClause " LIMIT " (.text "10") = .ok [.word " LIMIT 10"] :=
    countClause_eq_ok.2 ⟨10, ten, short, rfl⟩
  have users : (firstUsers name a b).pieces = .ok
      [.word "SELECT * FROM ", .word "users", .word " WHERE ", .word "name = ", .bind (.text name),
        .word " AND ", .word "age IN (", .bind a, .word ", ", .bind b, .word ")", .word " LIMIT 10"] := by
    simp only [firstUsers, Select.pieces, Source.pieces, Clauses.pieces, Clauses.cutClause, cut]
    rfl
  simp only [firstMembers, Select.render_eq, Select.pieces, Source.pieces, users]
  rfl

private theorem alike_firstMembers (name name' : String) (a b a' b' : Value) :
    (firstMembers name a b).Alike (firstMembers name' a' b') := by
  have filters : AlikeFilters
      (.ofEntries [(.text "name", .text name), (.text "age", .list [a, b])])
      (.ofEntries [(.text "name", .text name'), (.text "age", .list [a', b'])]) :=
    .cons ⟨rfl, rfl⟩ (.cons ⟨rfl, rfl⟩ .nil)
  have users : (firstUsers name a b).Alike (firstUsers name' a' b') :=
    .mk [] (.table "users") .nil ⟨filters, rfl, rfl, rfl, rfl, rfl⟩
  exact .mk [] (.subquery users "u") .nil ⟨.nil, rfl, rfl, rfl, rfl, rfl⟩

theorem text_of_firstMembers :
    let q := firstMembers "ada" (.int 30) (.int 40)
    let q' := firstMembers "' OR 1 = 1 --" (.text ":p_0") (.dict [])
    let users := firstUsers "ada" (.int 30) (.int 40)
    ∃ s s', q.Alike q' ∧ q.render = .ok s ∧ q'.render = .ok s' ∧
      (s.text = s'.text ∧ s.values.length = s'.values.length) ∧ users ∈ q.queries ∧
      ∃ n front cut, users.uncut.pieces = .ok front ∧ users.clauses.Cuts cut ∧
        textFrom n front ++ cut.toList <:+: s.text.toList := by
  have alike := alike_firstMembers "ada" "' OR 1 = 1 --" (.int 30) (.int 40) (.text ":p_0") (.dict [])
  have rendered := render_firstMembers "ada" (.int 30) (.int 40)
  have rendered' := render_firstMembers "' OR 1 = 1 --" (.text ":p_0") (.dict [])
  have inside : firstUsers "ada" (.int 30) (.int 40) ∈
      (firstMembers "ada" (.int 30) (.int 40)).queries :=
    List.mem_cons_of_mem _ (List.mem_cons_self ..)
  exact ⟨_, _, alike, rendered, rendered', text_of_alike.1 _ _ _ _ (.select alike) rendered rendered',
    inside, text_of_alike.2 _ _ _ inside rendered⟩

end RecordMapper.Sql
