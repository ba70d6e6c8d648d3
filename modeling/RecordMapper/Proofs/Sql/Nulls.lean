import RecordMapper.Proofs.Sql.Alignment

/-!
What a statement compares with `null`. A condition on `null` tests for the absence of a value, but the
members of a collection are compared one by one, and no row meets a comparison with `null`. So the rows
that a collection matches are those that its members match exactly if `null` is not among them.
-/
namespace RecordMapper.Sql

/-! What a statement binds. -/

/-- The values that a column is compared with, if a filter has a value for it. -/
def operands : Value → List Value
  | .null => []
  | v => v.choices

def compared (filter : Mapping) : List Value := filter.entries.flatMap fun e => operands e.2

mutual

def Select.filters : Select → List Mapping
  | .mk _ source joins clauses => source.filters ++ Join.allFilters joins ++ [clauses.filter]
termination_by structural q => q

def Source.filters : Source → List Mapping
  | .missing => []
  | .table _ => []
  | .subquery q _ => q.filters
termination_by structural s => s

def Join.filters : Join → List Mapping
  | .left q _ _ _ => q.filters
termination_by structural j => j

def Join.allFilters : List Join → List Mapping
  | [] => []
  | j :: js => j.filters ++ Join.allFilters js
termination_by structural js => js

end

def Insert.assigned (q : Insert) : List Value :=
  q.rows.flatMap fun row =>
    ((firstMentions (q.rows.flatMap listed)).filterMap (cell? row)).map storedForm

namespace Command

def filters : Command → List Mapping
  | select q => q.filters
  | insert _ => []
  | update q => [q.filter]
  | delete q => [q.filter]

def assigned : Command → List Value
  | select _ => []
  | insert q => q.assigned
  | update q => q.values.values.map storedForm
  | delete _ => []

end Command

theorem boundValues_ofValue (column : String) (v : Value) :
    boundValues ((Condition.ofValue v).pieces column) = operands v := by
  by_cases null : v = .null
  · rw [null]
    rfl
  · rw [boundValues_condition column null]
    cases v <;> first | rfl | exact absurd rfl null

theorem boundValues_whereClause (filter : Mapping) :
    boundValues (whereClause filter) = compared filter := by
  unfold whereClause
  split
  · rename_i none
    rw [compared, List.isEmpty_iff.1 none]
    rfl
  · rw [boundValues, boundValues_separatedBy, conjuncts, List.flatMap_map]
    simp only [boundValues_ofValue]
    rfl

theorem boundValues_clauses {c : Clauses} {ps : List Piece} (h : c.pieces = .ok ps) :
    boundValues ps = compared c.filter := by
  have group : boundValues c.groupClause = [] := by
    unfold Clauses.groupClause
    split <;> rfl
  have sorting : boundValues c.sorting = [] := by
    unfold Clauses.sorting
    split <;> rfl
  have cutting : boundValues c.cutting = [] := by
    unfold Clauses.cutting
    split
    · rfl
    · rw [boundValues]
      split <;> rfl
  rw [Clauses.pieces_eq_ok h, boundValues_append, boundValues_append, boundValues_append,
    boundValues_whereClause, group, sorting, cutting]
  simp

mutual

theorem boundValues_select : (q : Select) → {ps : List Piece} → q.pieces = .ok ps →
    boundValues ps = q.filters.flatMap compared
  | .mk columns source joins clauses, ps, h => by
    obtain ⟨names, first, joined, rest, _, hfirst, hjoined, hrest, rfl⟩ := Select.pieces_eq_ok h
    simp only [List.cons_append, boundValues, boundValues_append, boundValues_source source hfirst,
      boundValues_joins joins hjoined, boundValues_clauses hrest, Select.filters, List.flatMap_append,
      List.flatMap_cons, List.flatMap_nil, List.append_nil]

theorem boundValues_source : (source : Source) → {ps : List Piece} → source.pieces = .ok ps →
    boundValues ps = source.filters.flatMap compared
  | .missing, ps, h => by cases h
  | .table name, ps, h => by
    rw [← pure_eq_ok.1 h]
    rfl
  | .subquery q label, ps, h => by
    obtain ⟨inner, hinner, rfl⟩ := Source.pieces_subquery_eq_ok h
    simp [boundValues, boundValues_select q hinner, Source.filters]

theorem boundValues_join : (j : Join) → {ps : List Piece} → j.pieces = .ok ps →
    boundValues ps = j.filters.flatMap compared
  | .left q label localColumn foreignColumn, ps, h => by
    obtain ⟨inner, hinner, rfl⟩ := Join.pieces_eq_ok h
    simp [boundValues, boundValues_select q hinner, Join.filters]

theorem boundValues_joins : (js : List Join) → {ps : List Piece} → Join.allPieces js = .ok ps →
    boundValues ps = (Join.allFilters js).flatMap compared
  | [], ps, h => by
    rw [← pure_eq_ok.1 h]
    rfl
  | j :: js, ps, h => by
    obtain ⟨first, rest, hfirst, hrest, rfl⟩ := Join.allPieces_cons_eq_ok h
    rw [boundValues_append, boundValues_join j hfirst, boundValues_joins js hrest, Join.allFilters,
      List.flatMap_append]

end

theorem boundValues_row {columns : List Value} {row : Value} {ps : List Piece}
    (texts : ∀ c ∈ columns, c.isText) (h : Insert.rowPieces columns row = .ok ps) :
    boundValues ps = (columns.filterMap (cell? row)).map storedForm := by
  obtain ⟨cells, hcells, rfl⟩ := Insert.rowPieces_eq_ok h
  have each : cells.map boundValues = columns.map fun c => ((cell? row c).map storedForm).toList := by
    refine map_eq_of_forall₂ hcells fun c hc ps hps => ?_
    rcases Insert.cellPieces_eq_ok (texts c hc) hps with ⟨absent, rfl⟩ | ⟨v, w, found, hw, rfl⟩
    · rw [absent]
      rfl
    · rw [found, stored_eq_ok hw]
      rfl
  simp only [List.cons_append, boundValues, boundValues_append, boundValues_separatedBy, List.append_nil]
  rw [List.flatMap_def, each, ← List.flatMap_def, List.map_filterMap, List.filterMap_eq_flatMap_toList]

theorem boundValues_insert {q : Insert} {ps : List Piece} (h : q.pieces = .ok ps) :
    boundValues ps = q.assigned := by
  obtain ⟨columns, rows, hcolumns, hrows, rfl⟩ := Insert.pieces_eq_ok h
  rw [List.append_assoc, boundValues_append, Insert.boundValues_suffix, List.append_nil, Insert.assigned]
  rcases Insert.rowsClause_eq_ok hrows with ⟨rfl, rfl⟩ | ⟨some, texts, parts, hparts, rfl⟩
  · have none := Insert.unionColumns_eq_ok hcolumns (fun c hc => nomatch hc)
    simp [← none, boundValues]
  · have each : parts.map boundValues = q.rows.map fun row => (columns.filterMap (cell? row)).map storedForm :=
      map_eq_of_forall₂ hparts fun row _ ps hps => boundValues_row texts hps
    rw [← Insert.unionColumns_eq_ok hcolumns texts, boundValues, boundValues_separatedBy, List.flatMap_def,
      each, List.flatMap_def]

theorem boundValues_update {q : Update} {ps : List Piece} (h : q.pieces = .ok ps) :
    boundValues ps = q.values.values.map storedForm ++ compared q.filter := by
  obtain ⟨assignments, hassignments, rfl⟩ := Update.pieces_eq_ok h
  have each : assignments.map boundValues = q.values.entries.map fun e => [storedForm e.2] := by
    refine map_eq_of_forall₂ hassignments fun e _ ps hps => ?_
    obtain ⟨w, hw, hps⟩ := bind_eq_ok.1 hps
    rw [← pure_eq_ok.1 hps, stored_eq_ok hw]
    rfl
  have returning : boundValues (Insert.returningClause q.returning) = [] := by
    cases q.returning <;> rfl
  simp only [List.cons_append, boundValues, boundValues_append, boundValues_separatedBy,
    boundValues_whereClause, returning, List.append_nil, List.append_cancel_right_eq]
  rw [List.flatMap_def, each, ← List.flatMap_def, ← List.map_eq_flatMap, OrderedMap.values, List.map_map]
  rfl

/-- A statement binds what it stores, and then what its filters compare columns with. -/
theorem values_of_render {c : Command} {s : Statement} (h : c.render = .ok s) :
    s.values = c.assigned ++ c.filters.flatMap compared := by
  obtain ⟨ps, hps, rfl⟩ := Command.render_eq_ok h
  change boundValues ps = _
  cases c with
  | select q => exact boundValues_select q hps
  | insert q =>
    rw [boundValues_insert hps]
    simp [Command.filters, Command.assigned]
  | update q =>
    rw [boundValues_update hps]
    simp [Command.filters, Command.assigned]
  | delete q =>
    rw [← pure_eq_ok.1 hps, Delete.pieces, boundValues, boundValues_whereClause]
    simp [Command.filters, Command.assigned]

private theorem null_mem_operands {v : Value} :
    .null ∈ operands v ↔ v.isCollection = true ∧ .null ∈ v.choices := by
  cases v <;> simp [operands, Value.choices, Value.isCollection]

/-! What a database makes of conditions. -/

/-- What a condition comes to for a row. A comparison with `null` is neither met nor missed. -/
inductive Truth
  | holds
  | fails
  | unknown
deriving DecidableEq

def Truth.or : Truth → Truth → Truth
  | holds, _ | _, holds => holds
  | fails, fails => fails
  | _, _ => unknown

theorem Truth.or_eq_holds {a b : Truth} : a.or b = holds ↔ a = holds ∨ b = holds := by
  cases a <;> cases b <;> decide

/-- What an equality comes to. Which values are equal, if none is `null`, is left to the database. -/
def Truth.ofEquality (equal : Value → Value → Bool) : Value → Value → Truth
  | .null, _ | _, .null => unknown
  | v, w => if equal v w then holds else fails

namespace Condition

/-- What a condition comes to for a cell. Membership is a row of equalities, one of which has to hold. -/
def truth (equal : Value → Value → Bool) (cell : Value) : Condition → Truth
  | isNull => if cell matches .null then .holds else .fails
  | never => .fails
  | oneOf members => (members.map (Truth.ofEquality equal cell)).foldr Truth.or .fails
  | equals v => .ofEquality equal cell v

/-- The condition that a value stands for, be it a collection: a member of a collection is not taken
for its own members. -/
def single : Value → Condition
  | .null => isNull
  | v => equals v

variable (equal : Value → Value → Bool) (cell : Value)

theorem ofEquality_eq_holds {v : Value} :
    Truth.ofEquality equal cell v = .holds ↔ cell ≠ .null ∧ v ≠ .null ∧ equal cell v := by
  unfold Truth.ofEquality
  split <;> simp_all

theorem truth_oneOf {members : List Value} :
    (oneOf members).truth equal cell = .holds ↔ ∃ v ∈ members, Truth.ofEquality equal cell v = .holds := by
  rw [truth]
  induction members with
  | nil => simp
  | cons v members ih =>
    rw [List.map_cons, List.foldr_cons, Truth.or_eq_holds, ih]
    simp

/-- A condition holds for the cells that meet it, where `null` equals nothing. -/
theorem truth_eq_holds {condition : Condition} :
    condition.truth equal cell = .holds ↔
      condition.Meets (fun a b => a ≠ .null ∧ b ≠ .null ∧ equal a b) cell := by
  cases condition with
  | isNull => cases cell <;> simp [truth, Meets]
  | never => simp [truth, Meets]
  | oneOf members => simp only [truth_oneOf, ofEquality_eq_holds, Meets]
  | equals v => exact ofEquality_eq_holds equal cell

private theorem single_of_scalar {v : Value} (scalar : v.isCollection = false) : single v = ofValue v := by
  cases v with
  | list | tuple | set => cases scalar
  | _ => rfl

theorem truth_single {v : Value} (set : v ≠ .null) :
    (single v).truth equal cell = .holds ↔ cell ≠ .null ∧ v ≠ .null ∧ equal cell v := by
  have asks : single v = equals v := by
    cases v with
    | null => exact absurd rfl set
    | _ => rfl
  rw [asks]
  exact ofEquality_eq_holds equal cell

section

variable {v : Value} (collection : v.isCollection = true)
include collection

theorem truth_collection :
    (ofValue v).truth equal cell = .holds ↔
      ∃ w ∈ v.choices, w ≠ .null ∧ (single w).truth equal cell = .holds := by
  have set : v ≠ .null := by
    rintro rfl
    cases collection
  rw [truth_eq_holds, meets_ofValue _ cell set]
  constructor
  · rintro ⟨w, hw, met⟩
    exact ⟨w, hw, met.2.1, (truth_single equal cell met.2.1).2 met⟩
  · rintro ⟨w, hw, other, holds⟩
    exact ⟨w, hw, (truth_single equal cell other).1 holds⟩

/-- It holds where that of any member holds exactly if no member is `null`: a cell that is `null`
tells the difference. -/
theorem truth_collection_iff :
    (∀ cell, (ofValue v).truth equal cell = .holds ↔
      ∃ w ∈ v.choices, (single w).truth equal cell = .holds) ↔ .null ∉ v.choices := by
  constructor
  · intro agree null
    have missing : (single .null).truth equal .null = .holds := rfl
    obtain ⟨w, _, other, holds⟩ :=
      (truth_collection equal .null collection).1 ((agree .null).2 ⟨.null, null, missing⟩)
    exact ((truth_single equal .null other).1 holds).1 rfl
  · intro definite cell
    rw [truth_collection equal cell collection]
    constructor
    · rintro ⟨w, hw, _, holds⟩
      exact ⟨w, hw, holds⟩
    · rintro ⟨w, hw, holds⟩
      exact ⟨w, hw, fun null => definite (null ▸ hw), holds⟩

end

end Condition

/-- What a statement binds besides what it stores are the values that its filters, and those of the
queries inside it, compare columns with. `null` is among them exactly if it is a member of a
collection; and exactly then the collection does not match all rows that its members match. -/
theorem nulls_compared {c : Command} {s : Statement} (h : c.render = .ok s) :
    s.values = c.assigned ++ c.filters.flatMap compared ∧
    (.null ∈ c.filters.flatMap compared ↔
      ∃ filter ∈ c.filters, ∃ e ∈ filter.entries, e.2.isCollection ∧ .null ∈ e.2.choices) ∧
    ∀ filter ∈ c.filters, ∀ e ∈ filter.entries, e.2.isCollection →
      (∀ w ∈ e.2.choices, w.isCollection = false → Condition.single w = .ofValue w) ∧
      ∀ equal : Value → Value → Bool,
        (∀ cell, (Condition.ofValue e.2).truth equal cell = .holds ↔
          ∃ w ∈ e.2.choices, w ≠ .null ∧ (Condition.single w).truth equal cell = .holds) ∧
        ((∀ cell, (Condition.ofValue e.2).truth equal cell = .holds ↔
          ∃ w ∈ e.2.choices, (Condition.single w).truth equal cell = .holds) ↔ .null ∉ e.2.choices) := by
  refine ⟨values_of_render h, ?_, fun filter _ e _ collection => ⟨fun w _ => ?_, fun equal => ⟨?_, ?_⟩⟩⟩
  · simp only [compared, List.mem_flatMap, null_mem_operands]
  · exact Condition.single_of_scalar
  · exact fun cell => Condition.truth_collection equal cell collection
  · exact Condition.truth_collection_iff equal collection

def namesErased : Update where
  table := "users"
  values := .ofEntries [(.text "name", .null)]
  filter := .ofEntries [(.text "id", .list [.int 1, .int 2]), (.text "left", .null)]
  returning := false

set_option maxRecDepth 1000 in
theorem nulls_compared_namesErased :
    let c := Command.update namesErased
    let s : Statement :=
      ⟨"UPDATE users SET name = :p_0 WHERE id IN (:p_1, :p_2) AND left IS NULL", [.null, .int 1, .int 2]⟩
    c.render = .ok s ∧ .null ∉ c.filters.flatMap compared ∧
      ∀ equal cell, (Condition.ofValue (.list [.int 1, .int 2])).truth equal cell = .holds ↔
        ∃ w ∈ [.int 1, .int 2], (Condition.single w).truth equal cell = .holds := by
  intro c s
  have rendered : c.render = .ok s := rfl
  obtain ⟨_, _, collections⟩ := nulls_compared rendered
  have mine : namesErased.filter ∈ c.filters := List.mem_singleton_self _
  have given : (Value.text "id", Value.list [.int 1, .int 2]) ∈ namesErased.filter.entries :=
    List.mem_cons_self ..
  have definite : Value.null ∉ (Value.list [.int 1, .int 2]).choices := by simp [Value.choices]
  have bound : c.filters.flatMap compared = [.int 1, .int 2] := rfl
  refine ⟨rendered, ?_, fun equal => ((collections _ mine _ given rfl).2 equal).2.2 definite⟩
  rw [bound]
  simp

/-- Of two choices one is `null`, and rows without a value are missed. -/
theorem null_missed :
    let q := Select.mk [] (.table "t") [] { filter := .ofEntries [(.text "id", .list [.int 1, .null])] }
    q.render = .ok ⟨"SELECT * FROM t WHERE id IN (:p_0, :p_1)", [.int 1, .null]⟩ ∧
      (Condition.ofValue .null).truth (· == ·) .null = .holds ∧
      (Condition.ofValue (.list [.int 1, .null])).truth (· == ·) .null = .unknown :=
  ⟨rfl, rfl, rfl⟩

end RecordMapper.Sql
