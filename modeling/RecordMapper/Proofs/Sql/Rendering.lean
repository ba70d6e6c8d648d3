import RecordMapper.Proofs.Sql.Pieces

/-!
What is written is the row of pieces. A part written behind `n` bound values numbers its own from `n` on,
puts them behind the earlier ones and leaves these as they are, whatever they are. A part with
queries in it does so if they do, so an induction on the query carries this through every nesting. Main
statements: what is rendered is the text of the pieces numbered from zero, with their values.
-/
namespace RecordMapper.Sql

/-- The text of pieces and all values bound then, if they are written behind some values. -/
def appended (bound : List Value) (ps : List Piece) : String × List Value :=
  (String.ofList (textFrom bound.length ps), bound ++ boundValues ps)

@[simp] theorem appended_nil (bound : List Value) : appended bound [] = ("", bound) := by
  simp [appended, textFrom, boundValues]

@[simp] theorem appended_word (bound : List Value) (s : String) (ps : List Piece) :
    appended bound (.word s :: ps) = (s ++ (appended bound ps).1, (appended bound ps).2) := by
  simp [appended, textFrom, boundValues]

@[simp] theorem appended_append (bound : List Value) (ps qs : List Piece) :
    appended bound (ps ++ qs) = ((appended bound ps).1 ++ (appended (appended bound ps).2 qs).1,
      (appended (appended bound ps).2 qs).2) := by
  simp [appended, textFrom_append]

def appendedAll : List Value → List (List Piece) → List String × List Value
  | bound, [] => ([], bound)
  | bound, ps :: groups =>
    let first := appended bound ps
    let rest := appendedAll first.2 groups
    (first.1 :: rest.1, rest.2)

theorem appended_separatedBy (bound : List Value) (separator : String) (groups : List (List Piece)) :
    appended bound (separatedBy separator groups) =
      (separator.intercalate (appendedAll bound groups).1, (appendedAll bound groups).2) := by
  induction groups generalizing bound with
  | nil => simp [separatedBy, appendedAll]
  | cons ps groups ih =>
    cases groups with
    | nil => simp [separatedBy, appendedAll]
    | cons qs groups =>
      rw [separatedBy_cons_cons, appended_append, appended_word, ih]
      simp [appendedAll, String.append_assoc]

/-- Does writing a part come to its pieces, behind whatever is bound before? -/
def Writes (part : Writer String) (pieces : Except Error (List Piece)) : Prop :=
  ∀ bound, part bound = appended bound <$> pieces

section

variable {α β : Type}

theorem pure_run (text : String) (bound : List Value) :
    (pure text : Writer String) bound = pure (text, bound) := rfl

theorem lift_run (x : Except Error α) (next : α → Writer β) (bound : List Value) :
    ((liftM x : Writer α) >>= next) bound = x >>= fun a => next a bound := by
  cases x <;> rfl

theorem lift_apply (x : Except Error String) (bound : List Value) :
    (liftM x : Writer String) bound = (·, bound) <$> x := by
  cases x <;> rfl

/-- What is written behind a part has the values of the part before it. -/
theorem Writes.run {part : Writer String} {pieces : Except Error (List Piece)}
    (h : Writes part pieces) (next : String → Writer β) (bound : List Value) :
    (part >>= next) bound = pieces >>= fun ps =>
      next (appended bound ps).1 (appended bound ps).2 := by
  change (part bound >>= fun x => next x.1 x.2) = _
  rw [h bound, bind_map_left]

theorem mapM_run {f : α → Writer String} {g : α → Except Error (List Piece)}
    (each : ∀ x, Writes (f x) (g x)) (xs : List α) (next : List String → Writer β)
    (bound : List Value) :
    (xs.mapM f >>= next) bound = xs.mapM g >>= fun groups =>
      next (appendedAll bound groups).1 (appendedAll bound groups).2 := by
  induction xs generalizing bound next with
  | nil => simp [appendedAll]
  | cons x xs ih => simp only [List.mapM_cons, bind_assoc, (each x).run, ih, pure_bind, appendedAll]

theorem writes_bindValue (v : Value) : Writes (bindValue v) (pure [.bind v]) := by
  intro bound
  have number : (bound ++ [v]).length - 1 = bound.length := by simp
  change Except.ok (String.ofList (placeholder ((bound ++ [v]).length - 1)), bound ++ [v]) = _
  rw [number, map_pure, appended, textFrom, textFrom, List.append_nil]
  rfl

end

/-! Conditions and the clause of a filter. -/

theorem Condition.writes (column : String) (c : Condition) :
    Writes (c.write column) (pure (c.pieces column)) := by
  intro bound
  cases c with
  | isNull | never => simp [write, pieces, pure_run]
  | oneOf vs =>
    have binds : vs.mapM (fun v => (pure [Piece.bind v] : Except Error (List Piece))) =
        pure (vs.map fun v => [Piece.bind v]) := List.mapM_pure ..
    simp [write, pieces, mapM_run writes_bindValue, binds, pure_run, appended_separatedBy,
      String.append_assoc]
  | equals v => simp [write, pieces, (writes_bindValue v).run, pure_run]

theorem writes_where (filter : Mapping) : Writes (writeWhere filter) (pure (whereClause filter)) := by
  intro bound
  have conditions : filter.entries.mapM (fun e =>
      (pure ((Condition.ofValue e.2).pieces e.1.shown) : Except Error (List Piece))) =
      pure (conjuncts filter) := List.mapM_pure ..
  unfold writeWhere whereClause
  cases filter.isEmpty with
  | true => simp [pure_run]
  | false =>
    simp [mapM_run fun e : Value × Value => Condition.writes e.1.shown (.ofValue e.2), conditions,
      pure_run, appended_separatedBy]

/-! Queries. -/

theorem writes_count (keyword : String) (count : Value) :
    Writes (liftM (countText keyword count)) (countClause keyword count) := by
  intro bound
  rw [lift_apply, countText, countClause, map_bind, map_bind]
  refine congrArg _ (funext fun n => ?_)
  cases Number.isOverlong n with
  | true => rfl
  | false => simp

namespace Clauses

theorem appended_group (c : Clauses) (bound : List Value) :
    appended bound c.groupClause = (c.groupText, bound) := by
  unfold groupClause groupText
  split <;> simp

theorem writes_order (c : Clauses) : Writes (liftM c.orderText) c.orderClause := by
  intro bound
  rw [lift_apply, orderText, orderClause]
  cases c.order.truthy with
  | false => simp
  | true =>
    cases c.order.shown? with
    | none => rfl
    | some order => simp

theorem writes_offset (c : Clauses) : Writes (liftM c.offsetText) c.offsetClause := by
  unfold offsetText offsetClause
  cases c.offset.truthy with
  | true => exact writes_count " OFFSET " c.offset
  | false => exact fun bound => by simp [lift_apply]

theorem writes_cut (c : Clauses) : Writes (liftM c.cutText) c.cutClause := by
  intro bound
  unfold cutText cutClause
  cases c.limit with
  | null => simp [lift_apply]
  | _ =>
    simp [-bind_pure_comp, (writes_count " LIMIT " _).run, c.writes_offset.run, pure_run]

theorem writes (c : Clauses) : Writes c.write c.pieces := by
  intro bound
  simp [-bind_pure_comp, write, pieces, (writes_where c.filter).run, c.writes_order.run,
    c.writes_cut.run, pure_run, appended_group, String.append_assoc]

end Clauses

mutual

theorem Select.writes : ∀ q : Select, Writes q.write q.pieces
  | .mk columns .missing joins clauses => fun _ => rfl
  | .mk columns (.table name) joins clauses => by
    intro bound
    simp [-bind_pure_comp, Select.write, Select.pieces, lift_run, (Source.writes (.table name)).run,
      (Join.writesAll joins).run, clauses.writes.run, pure_run, String.append_assoc]
  | .mk columns (.subquery q label) joins clauses => by
    intro bound
    simp [-bind_pure_comp, Select.write, Select.pieces, lift_run, (Source.writes (.subquery q label)).run,
      (Join.writesAll joins).run, clauses.writes.run, pure_run, String.append_assoc]

theorem Source.writes : ∀ s : Source, Writes s.write s.pieces
  | .missing => fun _ => rfl
  | .table name => fun bound => by simp [Source.write, Source.pieces, pure_run]
  | .subquery q label => fun bound => by
    simp [-bind_pure_comp, Source.write, Source.pieces, q.writes.run, pure_run, String.append_assoc]

theorem Join.writes : ∀ j : Join, Writes j.write j.pieces
  | .left q label localColumn foreignColumn => fun bound => by
    simp [-bind_pure_comp, Join.write, Join.pieces, q.writes.run, pure_run, String.append_assoc]

theorem Join.writesAll : ∀ js : List Join, Writes (Join.writeAll js) (Join.allPieces js)
  | [] => fun bound => by simp [-bind_pure_comp, Join.writeAll, Join.allPieces, pure_run]
  | j :: js => fun bound => by
    simp [-bind_pure_comp, Join.writeAll, Join.allPieces, j.writes.run, (Join.writesAll js).run, pure_run]

end

/-! Insertions, updates and deletions. -/

namespace Insert

theorem writes_cell (row column : Value) : Writes (writeCell row column) (cellPieces row column) := by
  intro bound
  rw [writeCell, lift_run, cellPieces, map_bind]
  refine congrArg _ (funext fun given => ?_)
  cases given with
  | true => simp [-bind_pure_comp, lift_run, writes_bindValue _ _]
  | false => simp [pure_run]

theorem writes_row (columns : List Value) (row : Value) :
    Writes (writeRow columns row) (rowPieces columns row) := by
  intro bound
  simp [-bind_pure_comp, writeRow, rowPieces, mapM_run (writes_cell row), pure_run,
    appended_separatedBy, String.append_assoc]

theorem writes_rows (q : Insert) (columns : List Value) :
    Writes (q.writeRows columns) (q.rowsClause columns) := by
  intro bound
  unfold writeRows rowsClause
  cases columns.isEmpty with
  | true => simp [pure_run]
  | false =>
    simp [-bind_pure_comp, mapM_run (writes_row columns), lift_run, pure_run, appended_separatedBy]

theorem writes_conflict (columns keys : List Value) :
    Writes (liftM (conflictText columns keys)) (conflictClause columns keys) := by
  intro bound
  rw [lift_apply, conflictText, conflictClause]
  cases keys.isEmpty with
  | true => simp
  | false => simp

theorem appended_returning (returning : Bool) (bound : List Value) :
    appended bound (returningClause returning) = (returningText returning, bound) := by
  cases returning <;> simp [returningClause, returningText]

theorem writes (q : Insert) : Writes q.write q.pieces := by
  intro bound
  simp [-bind_pure_comp, write, pieces, lift_run, (q.writes_rows _).run, (writes_conflict _ _).run,
    pure_run, appended_returning, String.append_assoc]

end Insert

namespace Update

theorem writes_assignment (e : Value × Value) : Writes (writeAssignment e) (assignment e) := by
  intro bound
  simp [-bind_pure_comp, writeAssignment, assignment, lift_run, (writes_bindValue _).run, pure_run]

theorem writes (q : Update) : Writes q.write q.pieces := by
  intro bound
  simp [-bind_pure_comp, write, pieces, mapM_run writes_assignment, (writes_where q.filter).run,
    pure_run, appended_separatedBy, Insert.appended_returning, String.append_assoc]

end Update

theorem Delete.writes (q : Delete) : Writes q.write (pure q.pieces) := by
  intro bound
  simp [-bind_pure_comp, write, pieces, (writes_where q.filter).run, pure_run]

/-! Whole statements. -/

theorem ofWriter_eq {part : Writer String} {pieces : Except Error (List Piece)}
    (h : Writes part pieces) :
    Statement.ofWriter part = do return .ofPieces (← pieces) := by
  rw [Statement.ofWriter, h [], bind_map_left]
  rfl

theorem Select.render_eq (q : Select) : q.render = do return .ofPieces (← q.pieces) :=
  ofWriter_eq q.writes

theorem Insert.render_eq (q : Insert) : q.render = do return .ofPieces (← q.pieces) :=
  ofWriter_eq q.writes

theorem Update.render_eq (q : Update) : q.render = do return .ofPieces (← q.pieces) :=
  ofWriter_eq q.writes

theorem Delete.render_eq (q : Delete) : q.render = .ok (.ofPieces q.pieces) :=
  ofWriter_eq q.writes

end RecordMapper.Sql
