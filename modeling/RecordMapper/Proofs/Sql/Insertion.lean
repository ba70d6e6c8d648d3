import RecordMapper.Proofs.Sql.Command

/-!
The columns and the cells of an insertion. The columns are what the rows list, in the order of first
mention; a cell is the value that its row has under its column.
-/
namespace RecordMapper.Sql

def listed (row : Value) : List Value := row.items?.getD []

def mention (seen : List Value) (v : Value) : List Value :=
  if v.isIn seen then seen else seen ++ [v]

def firstMentions (vs : List Value) : List Value := vs.foldl mention []

private theorem mem_of_mem_foldl_mention {vs seen : List Value} {v : Value} (h : v ∈ vs.foldl mention seen) :
    v ∈ seen ∨ v ∈ vs := by
  induction vs generalizing seen with
  | nil => exact .inl h
  | cons w vs ih =>
    rcases ih h with hv | hv
    · unfold mention at hv
      split at hv
      · exact .inl hv
      · rcases List.mem_append.1 hv with hv | hv
        · exact .inl hv
        · exact .inr (List.mem_singleton.1 hv ▸ List.mem_cons_self ..)
    · exact .inr (List.mem_cons_of_mem _ hv)

theorem mem_of_mem_firstMentions {vs : List Value} {v : Value} (h : v ∈ firstMentions vs) : v ∈ vs := by
  rcases mem_of_mem_foldl_mention h with h | h
  · cases h
  · exact h

def cell? (row column : Value) : Option Value :=
  match row with
  | .dict es => (es.find? fun e => e.1 == column).map (·.2)
  | _ => none

theorem occursAmong_texts {texts : List Value} (h : ∀ t ∈ texts, t.isText) (v : Value) :
    v.occursAmong texts = .ok (v.isIn texts) := by
  induction texts with
  | nil => rfl
  | cons t texts ih =>
    have ht := h t (List.mem_cons_self ..)
    rw [Value.occursAmong, Value.text_equals ht, Value.isIn, List.any_cons, ← Value.beq_text_comm ht v]
    change (if (v == t) = true then .ok true else v.occursAmong texts) = _
    rw [ih fun s hs => h s (List.mem_cons_of_mem _ hs)]
    cases v == t <;> rfl

namespace Insert

private theorem addColumn_eq_ok {seen after : List Value} {v : Value} (h : addColumn seen v = .ok after)
    (texts : ∀ c ∈ after, c.isText) : after = mention seen v := by
  obtain ⟨found, hfound, h⟩ := bind_eq_ok.1 h
  have kept : ∀ c ∈ seen, c.isText := by
    intro c hc
    rw [← pure_eq_ok.1 h] at texts
    apply texts
    split
    · exact hc
    · exact List.mem_append_left _ hc
  rw [occursAmong_texts kept] at hfound
  rw [← pure_eq_ok.1 h, mention, Except.ok.inj hfound]

private theorem prefix_of_addColumn {seen after : List Value} {v : Value} (h : addColumn seen v = .ok after) :
    seen <+: after := by
  obtain ⟨found, _, h⟩ := bind_eq_ok.1 h
  rw [← pure_eq_ok.1 h]
  split
  · exact List.prefix_refl _
  · exact List.prefix_append _ _

private theorem prefix_of_foldlM_addColumn {vs seen after : List Value}
    (h : vs.foldlM addColumn seen = .ok after) : seen <+: after := by
  induction vs generalizing seen with
  | nil => exact pure_eq_ok.1 h ▸ List.prefix_refl _
  | cons v vs ih =>
    obtain ⟨next, hnext, h⟩ := bind_eq_ok.1 h
    exact (prefix_of_addColumn hnext).trans (ih h)

private theorem foldlM_addColumn_eq_ok {vs seen after : List Value}
    (h : vs.foldlM addColumn seen = .ok after) (texts : ∀ c ∈ after, c.isText) :
    after = vs.foldl mention seen := by
  induction vs generalizing seen with
  | nil => exact (pure_eq_ok.1 h).symm
  | cons v vs ih =>
    obtain ⟨next, hnext, h⟩ := bind_eq_ok.1 h
    have early : ∀ c ∈ next, c.isText := fun c hc =>
      texts c ((prefix_of_foldlM_addColumn h).subset hc)
    rw [ih h, addColumn_eq_ok hnext early]
    rfl

private theorem foldlM_rows_eq_ok {rows seen after : List Value}
    (h : rows.foldlM (fun columns row => do (← row.toItems).foldlM addColumn columns) seen = .ok after) :
    (rows.flatMap listed).foldlM addColumn seen = .ok after := by
  induction rows generalizing seen with
  | nil => exact h
  | cons row rows ih =>
    obtain ⟨next, hnext, h⟩ := bind_eq_ok.1 h
    obtain ⟨items, hitems, hnext⟩ := bind_eq_ok.1 hnext
    have row_items : listed row = items := by
      unfold Value.toItems at hitems
      unfold listed
      cases found : row.items? with
      | none => rw [found] at hitems; cases hitems
      | some vs => rw [found] at hitems; exact Except.ok.inj hitems
    rw [List.flatMap_cons, List.foldlM_append, row_items, hnext]
    exact ih h

theorem unionColumns_eq_ok {rows columns : List Value} (h : unionColumns rows = .ok columns)
    (texts : ∀ c ∈ columns, c.isText) : columns = firstMentions (rows.flatMap listed) :=
  foldlM_addColumn_eq_ok (foldlM_rows_eq_ok h) texts

theorem part_of_isText {row column : Value} {v : Value} (texts : column.isText)
    (h : row.part column = .ok v) : ∃ es, row = .dict es := by
  have noPosition (xs : List Value) : Value.itemAt xs column = .error .typeMismatch := by
    cases column with
    | text s => rfl
    | looseText ns => rfl
    | _ => simp [Value.isText, Value.codePoints?] at texts
  cases row with
  | dict es => exact ⟨es, rfl⟩
  | list xs | tuple xs | bytes bs | text s | looseText ns =>
    rw [Value.part, noPosition] at h
    cases h
  | _ => cases h

theorem cellPieces_eq_ok {row column : Value} {ps : List Piece} (texts : column.isText)
    (h : cellPieces row column = .ok ps) :
    (cell? row column = none ∧ ps = [.word "DEFAULT"]) ∨
      ∃ v w, cell? row column = some v ∧ stored v = .ok w ∧ ps = [.bind w] := by
  obtain ⟨found, hfound, h⟩ := bind_eq_ok.1 h
  cases found with
  | true =>
    obtain ⟨v, hv, bound⟩ := bind_eq_ok.1 h
    obtain ⟨w, hw, hps⟩ := bind_eq_ok.1 bound
    obtain ⟨es, rfl⟩ := part_of_isText texts hv
    refine .inr ⟨v, w, ?_, hw, (pure_eq_ok.1 hps).symm⟩
    simp only [Value.part] at hv
    split at hv
    · rename_i e he
      rw [cell?, he, ← pure_eq_ok.1 hv]
      rfl
    · cases hv
  | false =>
    refine .inl ⟨?_, (pure_eq_ok.1 h).symm⟩
    cases row with
    | dict es =>
      simp only [Value.memberOf, if_pos (Value.isHashable_of_isText texts), pure_eq_ok, Value.isIn,
        List.any_map, List.any_eq_false] at hfound
      have absent : es.find? (fun e => e.1 == column) = none := by
        refine List.find?_eq_none.2 fun e he => ?_
        rw [Value.beq_text_comm texts]
        exact hfound e he
      rw [cell?, absent]
      rfl
    | _ => rfl

theorem rowPieces_eq_ok {columns : List Value} {row : Value} {ps : List Piece}
    (h : rowPieces columns row = .ok ps) :
    ∃ cells, List.Forall₂ (fun c cell => cellPieces row c = .ok cell) columns cells ∧
      ps = .word "(" :: separatedBy ", " cells ++ [.word ")"] := by
  obtain ⟨cells, hcells, h⟩ := bind_eq_ok.1 h
  exact ⟨cells, mapM_eq_ok.1 hcells, (pure_eq_ok.1 h).symm⟩

def conflicting (columns keys : List Value) : List Piece :=
  if keys.isEmpty then []
  else [.word (" ON CONFLICT (" ++ ", ".intercalate (keys.map Value.shown) ++ ")" ++
    conflictAction columns keys)]

private theorem conflictClause_eq_ok {columns keys : List Value} {ps : List Piece}
    (h : conflictClause columns keys = .ok ps) : ps = conflicting columns keys := by
  unfold conflictClause at h
  unfold conflicting
  split at h
  · rename_i none
    rw [if_pos none, pure_eq_ok.1 h]
  · rename_i some
    obtain ⟨names, hnames, h⟩ := bind_eq_ok.1 h
    rw [if_neg some, ← pure_eq_ok.1 h, (columnNames_eq_ok hnames).2]

theorem rowsClause_eq_ok {q : Insert} {columns : List Value} {ps : List Piece}
    (h : q.rowsClause columns = .ok ps) :
    (columns = [] ∧ ps = [.word ("INSERT INTO " ++ q.table ++ " DEFAULT VALUES")]) ∨
      (columns ≠ [] ∧ (∀ c ∈ columns, c.isText) ∧
        ∃ rows, List.Forall₂ (fun row ps => rowPieces columns row = .ok ps) q.rows rows ∧
          ps = .word ("INSERT INTO " ++ q.table ++ " (" ++
            ", ".intercalate (columns.map Value.shown) ++ ") VALUES ") :: separatedBy ", " rows) := by
  unfold rowsClause at h
  split at h
  · rename_i none
    exact .inl ⟨List.isEmpty_iff.1 none, (pure_eq_ok.1 h).symm⟩
  · rename_i some
    obtain ⟨rows, hrows, h⟩ := bind_eq_ok.1 h
    obtain ⟨names, hnames, h⟩ := bind_eq_ok.1 h
    obtain ⟨texts, rfl⟩ := columnNames_eq_ok hnames
    refine .inr ⟨fun none => some (List.isEmpty_iff.2 none), texts, rows, mapM_eq_ok.1 hrows, ?_⟩
    exact (pure_eq_ok.1 h).symm

theorem pieces_eq_ok {q : Insert} {ps : List Piece} (h : q.pieces = .ok ps) :
    ∃ columns rows, unionColumns q.rows = .ok columns ∧ q.rowsClause columns = .ok rows ∧
      ps = rows ++ conflicting columns q.conflictKeys ++ returningClause q.returning := by
  obtain ⟨columns, hcolumns, h⟩ := bind_eq_ok.1 h
  obtain ⟨rows, hrows, h⟩ := bind_eq_ok.1 h
  obtain ⟨conflict, hconflict, h⟩ := bind_eq_ok.1 h
  refine ⟨columns, rows, hcolumns, hrows, ?_⟩
  rw [← conflictClause_eq_ok hconflict, pure_eq_ok.1 h]

/-! The insertion of one row. -/

def head (table : String) (columns : List String) : String :=
  "INSERT INTO " ++ table ++
    if columns.isEmpty then " DEFAULT VALUES" else " (" ++ ", ".intercalate columns ++ ") VALUES "

theorem foldl_mention {seen vs : List Value} (texts : ∀ v ∈ vs, v.isText)
    (distinct : (seen ++ vs).Pairwise fun a b => (a == b) = false) :
    vs.foldl mention seen = seen ++ vs := by
  induction vs generalizing seen with
  | nil => simp
  | cons v vs ih =>
    rw [List.forall_mem_cons] at texts
    have across := (List.pairwise_append.1 distinct).2.2
    have fresh : v.isIn seen = false := by
      refine List.any_eq_false.2 fun w hw => ?_
      rw [← Value.beq_text_comm texts.1, across w hw v (List.mem_cons_self ..)]
      exact Bool.false_ne_true
    rw [List.foldl_cons, mention, fresh, if_neg Bool.false_ne_true,
      ih texts.2 (by simpa using distinct)]
    simp

end Insert

end RecordMapper.Sql
