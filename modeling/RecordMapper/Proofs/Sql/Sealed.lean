import RecordMapper.Proofs.Sql.Insertion
import RecordMapper.Proofs.Sql.Placeholder

/-!
Statements seal their values. If the identifiers of a statement have no colon, no word of it has one,
and every value is followed by a comma, a bracket, a blank or nothing.
-/
namespace RecordMapper.Sql

theorem plain_append {s t : String} (hs : Plain s) (ht : Plain t) : Plain (s ++ t) := by
  simp [Plain, hs, ht]

theorem plain_intercalate {separator : String} {names : List String} (hs : Plain separator)
    (h : ∀ name ∈ names, Plain name) : Plain (separator.intercalate names) := by
  induction names with
  | nil => simp [Plain]
  | cons name names ih =>
    have rest := ih fun n hn => h n (List.mem_cons_of_mem _ hn)
    have first := h name (List.mem_cons_self ..)
    cases names with
    | nil => simpa using first
    | cons name' names =>
      rw [String.intercalate_cons_cons]
      exact plain_append (plain_append first hs) rest

theorem plain_repr (n : Nat) : Plain n.repr := by
  unfold Plain
  rw [Nat.toList_repr]
  intro h
  exact absurd (isDigit_of_mem_digitsOf h) (by decide)

theorem plain_toString (n : Int) : Plain (toString n) := by
  cases n with
  | ofNat m => exact plain_repr m
  | negSucc m => exact plain_append (by simp [Plain]) (plain_repr (m + 1))

theorem plain_decimal (count : Value) : Plain (decimal count) := by
  unfold decimal
  split
  · exact plain_toString _
  · simp [Plain]

def filterIdentifiers (filter : Mapping) : List String := filter.keys.map Value.shown

def Clauses.identifiers (c : Clauses) : List String :=
  c.group :: c.order.shown :: filterIdentifiers c.filter

mutual

def Select.identifiers : Select → List String
  | .mk columns source joins clauses =>
    columns.map Value.shown ++ source.identifiers ++ Join.allIdentifiers joins ++ clauses.identifiers
termination_by structural q => q

def Source.identifiers : Source → List String
  | .missing => []
  | .table name => [name]
  | .subquery q label => label :: q.identifiers
termination_by structural s => s

def Join.identifiers : Join → List String
  | .left q label localColumn foreignColumn => label :: localColumn :: foreignColumn :: q.identifiers
termination_by structural j => j

def Join.allIdentifiers : List Join → List String
  | [] => []
  | j :: js => j.identifiers ++ Join.allIdentifiers js
termination_by structural js => js

end

def Command.identifiers : Command → List String
  | select q => q.identifiers
  | insert q => q.table :: (q.rows.flatMap listed ++ q.conflictKeys).map Value.shown
  | update q => q.table :: q.values.keys.map Value.shown ++ filterIdentifiers q.filter
  | delete q => q.table :: filterIdentifiers q.filter

theorem sealed_word {s : String} (h : Plain s) : Sealed [.word s] := ⟨h, trivial⟩

theorem sealed_separatedBy {separator : String} {pss : List (List Piece)} (hs : Plain separator)
    (opens : Opens [.word separator]) (h : ∀ ps ∈ pss, Sealed ps) :
    Sealed (separatedBy separator pss) := by
  induction pss with
  | nil => trivial
  | cons ps rest ih =>
    have first := h ps (List.mem_cons_self ..)
    cases rest with
    | nil => exact first
    | cons qs rest =>
      have last := ih fun qs hqs => h qs (List.mem_cons_of_mem _ hqs)
      rw [separatedBy_cons_cons]
      exact sealed_append first ⟨hs, last⟩ opens

theorem sealed_commas {pss : List (List Piece)} (h : ∀ ps ∈ pss, Sealed ps) :
    Sealed (separatedBy ", " pss) :=
  sealed_separatedBy (by simp [Plain]) ⟨by simp, by decide⟩ h

theorem sealed_condition {column : String} (h : Plain column) (c : Condition) :
    Sealed (c.pieces column) := by
  cases c with
  | isNull => exact sealed_word (by simp [Plain, h])
  | never => exact sealed_word (by simp [Plain])
  | equals v => exact ⟨by simp [Plain, h], trivial, trivial⟩
  | oneOf vs =>
    have members : Sealed (separatedBy ", " (vs.map fun v => [.bind v])) := by
      apply sealed_commas
      intro ps hps
      obtain ⟨v, _, rfl⟩ := List.mem_map.1 hps
      exact ⟨trivial, trivial⟩
    exact ⟨by simp [Plain, h], sealed_append members (sealed_word (by simp [Plain])) ⟨by simp, by decide⟩⟩

theorem sealed_whereClause {filter : Mapping} (h : ∀ name ∈ filterIdentifiers filter, Plain name) :
    Sealed (whereClause filter) := by
  unfold whereClause
  split
  · trivial
  · refine ⟨by simp [Plain], sealed_separatedBy (by simp [Plain]) ⟨by simp, by decide⟩ fun ps hps => ?_⟩
    obtain ⟨e, he, rfl⟩ := List.mem_map.1 hps
    apply sealed_condition
    apply h
    exact List.mem_map_of_mem (List.mem_map_of_mem he)

theorem opens_whereClause (filter : Mapping) : Opens (whereClause filter) := by
  unfold whereClause
  split
  · trivial
  · exact ⟨by simp, by decide⟩

theorem sealed_clauses {c : Clauses} {ps : List Piece} (h : ∀ name ∈ c.identifiers, Plain name)
    (hps : c.pieces = .ok ps) : Sealed ps ∧ Opens ps := by
  simp only [Clauses.identifiers, List.forall_mem_cons] at h
  obtain ⟨group, order, filter⟩ := h
  have direction : Plain c.direction.word := by cases c.direction <;> simp [Direction.word, Plain]
  have grouping : Sealed c.groupClause ∧ Opens c.groupClause := by
    unfold Clauses.groupClause
    split
    · exact ⟨trivial, trivial⟩
    · exact ⟨sealed_word (by simp [Plain, group]), by simp, by simp [startsWithDigit]⟩
  have sorting : Sealed c.sorting ∧ Opens c.sorting := by
    unfold Clauses.sorting
    split
    · exact ⟨sealed_word (by simp [Plain, order, direction]), by simp, by simp [startsWithDigit]⟩
    · exact ⟨trivial, trivial⟩
  have cutting : Sealed c.cutting ∧ Opens c.cutting := by
    have limit := plain_decimal c.limit
    have offset := plain_decimal c.offset
    unfold Clauses.cutting
    split
    · exact ⟨trivial, trivial⟩
    · refine ⟨⟨by simp [Plain, limit], ?_⟩, by simp, by simp [startsWithDigit]⟩
      split
      · exact sealed_word (by simp [Plain, offset])
      · trivial
  rw [Clauses.pieces_eq_ok hps]
  have first := sealed_append (sealed_whereClause filter) grouping.1 grouping.2
  have second := sealed_append first sorting.1 sorting.2
  refine ⟨sealed_append second cutting.1 cutting.2, ?_⟩
  exact opens_append (opens_append (opens_append (opens_whereClause _) grouping.2) sorting.2) cutting.2

theorem plain_columnList {columns : List Value} {names : String}
    (h : ∀ name ∈ columns.map Value.shown, Plain name) (hnames : columnList columns = .ok names) :
    Plain names := by
  rw [columnList_eq_ok hnames]
  split
  · simp [Plain]
  · exact plain_intercalate (by simp [Plain]) h

theorem opens_joins {js : List Join} {ps : List Piece} (h : Join.allPieces js = .ok ps) : Opens ps := by
  cases js with
  | nil =>
    rw [← pure_eq_ok.1 h]
    trivial
  | cons j js =>
    obtain ⟨first, rest, hfirst, _, rfl⟩ := Join.allPieces_cons_eq_ok h
    obtain ⟨q, label, localColumn, foreignColumn⟩ := j
    obtain ⟨inner, _, rfl⟩ := Join.pieces_eq_ok hfirst
    exact ⟨by simp, by simp [startsWithDigit]⟩

mutual

theorem sealed_select : (q : Select) → {ps : List Piece} → (∀ name ∈ q.identifiers, Plain name) →
    q.pieces = .ok ps → Sealed ps
  | .mk columns source joins clauses, ps, plain, h => by
    obtain ⟨names, first, joined, rest, hnames, hfirst, hjoined, hrest, rfl⟩ := Select.pieces_eq_ok h
    simp only [Select.identifiers, List.forall_mem_append] at plain
    obtain ⟨⟨⟨pcolumns, psource⟩, pjoins⟩, pclauses⟩ := plain
    have list := plain_columnList pcolumns hnames
    have clauses := sealed_clauses pclauses hrest
    have sources := sealed_append (sealed_source source psource hfirst)
      (sealed_joins joins pjoins hjoined) (opens_joins hjoined)
    refine ⟨by simp [Plain, list], ?_⟩
    exact sealed_append sources clauses.1 clauses.2

theorem sealed_source : (source : Source) → {ps : List Piece} →
    (∀ name ∈ source.identifiers, Plain name) → source.pieces = .ok ps → Sealed ps
  | .missing, ps, plain, h => by cases h
  | .table name, ps, plain, h => by
    rw [← pure_eq_ok.1 h]
    exact sealed_word (plain name (List.mem_singleton_self _))
  | .subquery q label, ps, plain, h => by
    obtain ⟨inner, hinner, rfl⟩ := Source.pieces_subquery_eq_ok h
    simp only [Source.identifiers, List.forall_mem_cons] at plain
    refine ⟨by simp [Plain], sealed_append (sealed_select q plain.2 hinner) ?_ ?_⟩
    · exact sealed_word (by simp [Plain, plain.1])
    · exact ⟨by simp, by simp [startsWithDigit]⟩

theorem sealed_join : (j : Join) → {ps : List Piece} → (∀ name ∈ j.identifiers, Plain name) →
    j.pieces = .ok ps → Sealed ps
  | .left q label localColumn foreignColumn, ps, plain, h => by
    obtain ⟨inner, hinner, rfl⟩ := Join.pieces_eq_ok h
    simp only [Join.identifiers, List.forall_mem_cons] at plain
    obtain ⟨plabel, plocal, pforeign, pquery⟩ := plain
    refine ⟨by simp [Plain], sealed_append (sealed_select q pquery hinner) ?_ ?_⟩
    · exact sealed_word (by simp [Plain, plabel, plocal, pforeign])
    · exact ⟨by simp, by simp [startsWithDigit]⟩

theorem sealed_joins : (js : List Join) → {ps : List Piece} →
    (∀ name ∈ Join.allIdentifiers js, Plain name) → Join.allPieces js = .ok ps → Sealed ps
  | [], ps, plain, h => by
    rw [← pure_eq_ok.1 h]
    trivial
  | j :: js, ps, plain, h => by
    obtain ⟨first, rest, hfirst, hrest, rfl⟩ := Join.allPieces_cons_eq_ok h
    simp only [Join.allIdentifiers, List.forall_mem_append] at plain
    exact sealed_append (sealed_join j plain.1 hfirst) (sealed_joins js plain.2 hrest)
      (opens_joins hrest)

end

theorem sealed_cell {row column : Value} {ps : List Piece} (text : column.isText)
    (h : Insert.cellPieces row column = .ok ps) : Sealed ps := by
  rcases Insert.cellPieces_eq_ok text h with ⟨_, rfl⟩ | ⟨v, w, _, _, rfl⟩
  · exact sealed_word (by simp [Plain])
  · exact ⟨trivial, trivial⟩

theorem sealed_row {columns : List Value} {row : Value} {ps : List Piece}
    (texts : ∀ c ∈ columns, c.isText) (h : Insert.rowPieces columns row = .ok ps) : Sealed ps := by
  obtain ⟨cells, hcells, rfl⟩ := Insert.rowPieces_eq_ok h
  have each := forall_of_forall₂ (p := Sealed) hcells fun c hc _ hcell => sealed_cell (texts c hc) hcell
  refine ⟨by simp [Plain], sealed_append (sealed_commas each) (sealed_word ?_) ?_⟩
  · simp [Plain]
  · exact ⟨by simp, by decide⟩

theorem sealed_conflicting {columns keys : List Value}
    (hcolumns : ∀ c ∈ columns, Plain c.shown) (hkeys : ∀ k ∈ keys, Plain k.shown) :
    Sealed (Insert.conflicting columns keys) ∧ Opens (Insert.conflicting columns keys) := by
  have names : Plain (", ".intercalate (keys.map Value.shown)) := by
    apply plain_intercalate (by simp [Plain])
    exact List.forall_mem_map.2 hkeys
  have action : Plain (Insert.conflictAction columns keys) := by
    unfold Insert.conflictAction
    dsimp only
    split
    · simp [Plain]
    · refine plain_append (by simp [Plain]) (plain_intercalate (by simp [Plain]) ?_)
      refine List.forall_mem_map.2 fun c hc => ?_
      have := hcolumns c (List.mem_filter.1 hc).1
      simp [Plain, this]
  unfold Insert.conflicting
  split
  · exact ⟨trivial, trivial⟩
  · refine ⟨sealed_word (plain_append (plain_append (plain_append ?_ names) ?_) action), ?_⟩
    · simp [Plain]
    · simp [Plain]
    · exact ⟨by simp, by simp [startsWithDigit]⟩

theorem sealed_returningClause (yes : Bool) :
    Sealed (Insert.returningClause yes) ∧ Opens (Insert.returningClause yes) := by
  cases yes with
  | false => exact ⟨trivial, trivial⟩
  | true => exact ⟨sealed_word (by simp [Plain]), by simp, by decide⟩

theorem sealed_insert {q : Insert} {ps : List Piece}
    (plain : ∀ name ∈ (Command.insert q).identifiers, Plain name) (h : q.pieces = .ok ps) :
    Sealed ps := by
  obtain ⟨columns, rows, hcolumns, hrows, rfl⟩ := Insert.pieces_eq_ok h
  simp only [Command.identifiers, List.forall_mem_cons, List.map_append, List.forall_mem_append,
    List.forall_mem_map] at plain
  obtain ⟨ptable, plisted, pkeys⟩ := plain
  have returning := sealed_returningClause q.returning
  have start : Sealed rows ∧ ∀ c ∈ columns, Plain c.shown := by
    rcases Insert.rowsClause_eq_ok hrows with ⟨rfl, rfl⟩ | ⟨_, texts, parts, hparts, rfl⟩
    · exact ⟨sealed_word (by simp [Plain, ptable]), fun c hc => nomatch hc⟩
    · have pcolumns : ∀ c ∈ columns, Plain c.shown := by
        intro c hc
        rw [Insert.unionColumns_eq_ok hcolumns texts] at hc
        exact plisted c (mem_of_mem_firstMentions hc)
      have list : Plain (", ".intercalate (columns.map Value.shown)) :=
        plain_intercalate (by simp [Plain]) (List.forall_mem_map.2 pcolumns)
      have each := forall_of_forall₂ (p := Sealed) hparts fun row _ _ hrow => sealed_row texts hrow
      have head : Plain ("INSERT INTO " ++ q.table ++ " (") := by simp [Plain, ptable]
      refine ⟨⟨plain_append (plain_append head list) ?_, sealed_commas each⟩, pcolumns⟩
      simp [Plain]
  have conflict := sealed_conflicting start.2 pkeys
  exact sealed_append (sealed_append start.1 conflict.1 conflict.2) returning.1 returning.2

theorem sealed_update {q : Update} {ps : List Piece}
    (plain : ∀ name ∈ (Command.update q).identifiers, Plain name) (h : q.pieces = .ok ps) :
    Sealed ps := by
  obtain ⟨assignments, hassignments, rfl⟩ := Update.pieces_eq_ok h
  simp only [Command.identifiers, List.cons_append, List.forall_mem_cons, List.forall_mem_append,
    OrderedMap.keys, List.forall_mem_map] at plain
  obtain ⟨ptable, pvalues, pfilter⟩ := plain
  have each : ∀ a ∈ assignments, Sealed a := by
    refine forall_of_forall₂ hassignments fun e he ps hps => ?_
    obtain ⟨w, _, hps⟩ := bind_eq_ok.1 hps
    rw [← pure_eq_ok.1 hps]
    exact ⟨by simp [Plain, pvalues e he], trivial, trivial⟩
  have returning := sealed_returningClause q.returning
  have first := sealed_append (sealed_commas each) (sealed_whereClause pfilter) (opens_whereClause _)
  have all := sealed_append first returning.1 returning.2
  exact ⟨by simp [Plain, ptable], all⟩

theorem sealed_pieces {c : Command} {ps : List Piece} (plain : ∀ name ∈ c.identifiers, Plain name)
    (h : c.pieces = .ok ps) : Sealed ps := by
  cases c with
  | select q => exact sealed_select q plain h
  | insert q => exact sealed_insert plain h
  | update q => exact sealed_update plain h
  | delete q =>
    simp only [Command.identifiers, List.forall_mem_cons] at plain
    rw [← pure_eq_ok.1 h]
    exact ⟨by simp [Plain, plain.1], sealed_whereClause plain.2⟩

end RecordMapper.Sql
