import RecordMapper.Proofs.Operation.Recognition
import RecordMapper.Proofs.Sql.Cut

/-!
Searches that are limited. A search with a limit sends the statement that it sends without one, and the
limit and the offset behind it. But a search asks whether the limit is true, and a query whether there is
one, so a limit of zero is none.
-/
namespace RecordMapper

open Sql

namespace Sql

def Select.cut (limit offset : Int) (q : Select) : Select :=
  if offset = 0 then q.limit (.int limit) else (q.limit (.int limit)).offset (.int offset)

def cutText (limit offset : Int) : String :=
  " LIMIT " ++ toString limit ++ if offset = 0 then "" else " OFFSET " ++ toString offset

def Statement.cut (limit offset : Int) (s : Statement) : Statement :=
  { s with text := s.text ++ cutText limit offset }

/-- Neither the query nor any inside it has a limit or an offset. -/
def Select.Whole (q : Select) : Prop :=
  ∀ inner ∈ q.queries, inner.clauses.limit = .null ∧ inner.clauses.offset = .null

theorem countClause_int (keyword : String) (n : Int) : countClause keyword (.int n) =
    if Number.isOverlong n then throw .badValue else pure [.word (keyword ++ toString n)] := by
  change (Except.ok n >>= fun n => _) = _
  rw [ok_bind]
  split
  · rfl
  · rfl

def cutPieces (limit offset : Int) : List Piece :=
  .word (" LIMIT " ++ toString limit) ::
    if offset = 0 then [] else [.word (" OFFSET " ++ toString offset)]

private theorem boundValues_cutPieces (limit offset : Int) : boundValues (cutPieces limit offset) = [] := by
  unfold cutPieces
  split
  · rfl
  · rfl

private theorem textFrom_cutPieces (limit offset : Int) (n : Nat) :
    textFrom n (cutPieces limit offset) = (cutText limit offset).toList := by
  unfold cutPieces cutText
  split <;> simp [textFrom]

private theorem ofPieces_cut (ps : List Piece) (limit offset : Int) :
    Statement.ofPieces (ps ++ cutPieces limit offset) = (Statement.ofPieces ps).cut limit offset := by
  unfold Statement.ofPieces Statement.cut
  rw [textFrom_append, textFrom_cutPieces, boundValues_append, boundValues_cutPieces, List.append_nil,
    String.ofList_append, String.ofList_toList]

/-- What a limit and an offset write, if both are short enough to be written. -/
def cutting (limit offset : Int) : Except Error (List Piece) :=
  if Number.isOverlong limit || Number.isOverlong offset then throw .badValue
  else pure (cutPieces limit offset)

private theorem cutClause_of_limit {c : Clauses} {limit offset : Int} (hlimit : c.limit = .int limit)
    (hoffset : c.offset = if offset = 0 then .null else .int offset) :
    c.cutClause = cutting limit offset := by
  unfold Clauses.cutClause Clauses.offsetClause cutting cutPieces
  rw [hlimit, hoffset]
  by_cases start : offset = 0
  · have short : Number.isOverlong 0 = false := by decide +kernel
    rw [if_pos start, if_pos start, start, short, Bool.or_false]
    simp only [countClause_int]
    cases Number.isOverlong limit <;> rfl
  · have skipping : (Value.int offset).truthy := by simpa [Value.truthy] using start
    rw [if_neg start, if_neg start, if_pos skipping]
    simp only [countClause_int]
    cases Number.isOverlong limit <;> cases Number.isOverlong offset <;> rfl

theorem pieces_of_limit {c c' : Clauses} {limit offset : Int} (unlimited : c.limit = .null)
    (same : c' = { c with limit := .int limit, offset := if offset = 0 then .null else .int offset }) :
    c'.pieces = (do return (← c.pieces) ++ (← cutting limit offset)) := by
  have all : c.cutClause = pure [] := by rw [Clauses.cutClause, unlimited]
  have cut : c'.cutClause = cutting limit offset := by
    apply cutClause_of_limit
    · rw [same]
    · rw [same]
  unfold Clauses.pieces
  rw [cut, all, same]
  simp only [bind_assoc, pure_bind, List.append_nil]
  rfl

theorem Select.pieces_extended {q : Select} {f : Clauses → Clauses} {back : Except Error (List Piece)}
    (h : (f q.clauses).pieces = (do return (← q.clauses.pieces) ++ (← back))) :
    (q.mapClauses f).pieces = (do return (← q.pieces) ++ (← back)) := by
  obtain ⟨columns, source, joins, clauses⟩ := q
  change (f clauses).pieces = (do return (← clauses.pieces) ++ (← back)) at h
  change (Select.mk columns source joins (f clauses)).pieces = _
  cases source with
  | missing => rfl
  | table name | subquery inner label =>
    simp only [Select.pieces, h, bind_assoc, pure_bind, List.append_assoc, List.cons_append]

theorem render_cut {q : Select} (whole : q.Whole) (limit offset : Int) :
    (q.cut limit offset).render =
      if Number.isOverlong limit || Number.isOverlong offset then q.render >>= fun _ => throw .badValue
      else q.render.map (Statement.cut limit offset) := by
  obtain ⟨unlimited, start⟩ := whole q q.mem_queries
  have pieces : (q.cut limit offset).pieces = (do return (← q.pieces) ++ (← cutting limit offset)) := by
    unfold Select.cut
    split
    · rename_i first
      refine Select.pieces_extended (pieces_of_limit unlimited ?_)
      rw [if_pos first, ← start]
    · rename_i later
      have both : (q.limit (.int limit)).offset (.int offset) =
          q.mapClauses fun c => { c with limit := .int limit, offset := .int offset } := by
        cases q
        rfl
      rw [both]
      refine Select.pieces_extended (pieces_of_limit unlimited ?_)
      rw [if_neg later]
  rw [Select.render_eq, Select.render_eq, pieces, cutting]
  cases q.pieces with
  | error e => split <;> rfl
  | ok ps =>
    split
    · rfl
    · exact congrArg Except.ok (ofPieces_cut ps limit offset)

end Sql

theorem Relation.whole_of_compile {name : String} {r : Relation} {target : Schema} {q : Select}
    (h : r.compile name target = .ok q) : q.Whole := by
  rcases kind_of_compile h with ⟨_, rfl⟩ | ⟨_, rfl⟩
  · intro inner mem
    obtain rfl := List.mem_singleton.1 mem
    exact ⟨rfl, rfl⟩
  · intro inner mem
    change inner ∈ [joinMany name r target, joinOne name r target] at mem
    rcases List.mem_pair.1 mem with rfl | rfl
    · exact ⟨rfl, rfl⟩
    · exact ⟨rfl, rfl⟩

theorem Action.lift_bind {σ α β : Type} (x : Except Error α) (f : α → Except Error β) :
    (liftM (x >>= f) : Action σ β) = liftM x >>= fun a => liftM (f a) := by
  cases x <;> rfl

/-- The columns that a search selects of its own table. -/
def Search.chosen (s : Search) (table : String) : Except Error (List Value) :=
  if s.columns.truthy then s.columns.toItems else pure [.text (table ++ ".*")]

def Search.cut (s : Search) (q : Select) : Select :=
  if s.limit.truthy then
    let query := q.limit s.limit
    if s.offset.truthy then query.offset s.offset else query
  else q

namespace Operation

def sorted (query : Select) (s : Search) : Except Error Select :=
  if s.order.truthy then query.orderBy s.order s.direction else pure query

theorem arranged_eq (query : Select) (s : Search) :
    arranged query s = (do return s.cut (← sorted query s)) := by
  unfold arranged sorted Search.cut
  by_cases ordered : s.order.truthy
  · simp only [ordered, if_true]
    cases query.orderBy s.order s.direction <;> by_cases limited : s.limit.truthy <;> simp [limited]
  · by_cases limited : s.limit.truthy <;> simp [ordered, limited]

/-- The query of a search before it is limited, and what is fetched with it. -/
def gathered (m : ModelClass) (filter : Value) (s : Search) :
    Action Catalog (Population × Select) := do
  let schema ← m.schema
  let columns ← if s.columns.truthy then s.columns.toItems else pure [.text (schema.table ++ ".*")]
  let wanted ← Wanted.ofValue s.populate
  let p ← populate m schema.table (populated schema wanted) { columns }
  let selected ← p.query.select (.list p.columns)
  let conditions ← qualifiedFilter schema.table filter
  return (p, ← sorted ((selected.fromTable schema.table).whereAll conditions) s)

theorem gathered_eq (m : ModelClass) (filter : Value) (s : Search) : gathered m filter s =
    liftM m.schema >>= fun schema => liftM (s.chosen schema.table) >>= fun columns =>
      liftM (Wanted.ofValue s.populate) >>= fun wanted =>
        populate m schema.table (populated schema wanted) { columns } >>= fun p =>
          liftM (p.query.select (.list p.columns)) >>= fun selected =>
            liftM (qualifiedFilter schema.table filter) >>= fun conditions =>
              liftM (sorted ((selected.fromTable schema.table).whereAll conditions) s) >>= fun q =>
                pure (p, q) := by
  unfold gathered Search.chosen
  by_cases chosen : s.columns.truthy
  · simp only [chosen, if_true]
  · simp only [chosen, Bool.false_eq_true, if_false]
    rfl

section

variable {κ : Type} (fns : Functions) (m : ModelClass) (filter : Value) (s : Search) (route : Route κ)
  (replies : Replies κ) (c : Catalog)

theorem findMany_eq : findMany fns m filter s route =
    (gathered m filter s >>= fun whole => liftM (s.cut whole.2).render >>= fun statement =>
      sending m route statement (found fns m whole.1.joined)) := by
  unfold findMany gathered
  by_cases chosen : s.columns.truthy
  · simp only [chosen, if_true, bind_assoc, pure_bind, arranged_eq, Action.lift_bind]
    rfl
  · simp only [chosen, Bool.false_eq_true, if_false, bind_assoc, pure_bind, arranged_eq, Action.lift_bind]
    rfl

end

private theorem mem_allQueries {table : String} {joined : List Joined} {inner : Select}
    (h : inner ∈ Join.allQueries (joined.map (·.join table))) :
    ∃ j ∈ joined, inner ∈ j.query.queries := by
  induction joined with
  | nil => nomatch h
  | cons j joined ih =>
    rcases List.mem_append.1 h with mem | mem
    · exact ⟨j, List.mem_cons_self .., mem⟩
    · obtain ⟨other, here, mem⟩ := ih mem
      exact ⟨other, List.mem_cons_of_mem _ here, mem⟩

private theorem sorted_eq_ok {columns : List Value} {source : Source} {joins : List Join} {clauses : Clauses}
    {s : Search} {q : Select} (h : sorted (.mk columns source joins clauses) s = .ok q) :
    ∃ clauses', q = .mk columns source joins clauses' ∧ clauses'.limit = clauses.limit ∧
      clauses'.offset = clauses.offset := by
  unfold sorted at h
  split at h
  · obtain ⟨direction, _, h⟩ := bind_eq_ok.1 h
    exact ⟨_, (pure_eq_ok.1 h).symm, rfl, rfl⟩
  · exact ⟨clauses, (pure_eq_ok.1 h).symm, rfl, rfl⟩

theorem gathered_eq_ok {m : ModelClass} {filter : Value} {s : Search} {c : Catalog} {p : Population}
    {q : Select} (h : (gathered m filter s c).1 = .ok (p, q)) :
    ∃ schema wanted columns selected conditions, m.schema = .ok schema ∧
      Wanted.ofValue s.populate = .ok wanted ∧ s.chosen schema.table = .ok columns ∧
      (populate m schema.table (populated schema wanted) { columns } c).1 = .ok p ∧
      p.query.select (.list p.columns) = .ok selected ∧
      qualifiedFilter schema.table filter = .ok conditions ∧
      sorted ((selected.fromTable schema.table).whereAll conditions) s = .ok q := by
  rw [gathered_eq] at h
  obtain ⟨schema, hschema, h⟩ := Action.bind_eq_ok.1 h
  obtain ⟨columns, hcolumns, h⟩ := Action.bind_eq_ok.1 h
  obtain ⟨wanted, hwanted, h⟩ := Action.bind_eq_ok.1 h
  obtain ⟨p', hp, h⟩ := Action.bind_eq_ok.1 h
  obtain ⟨selected, hselected, h⟩ := Action.bind_eq_ok.1 h
  obtain ⟨conditions, hconditions, h⟩ := Action.bind_eq_ok.1 h
  obtain ⟨q', hq, h⟩ := Action.bind_eq_ok.1 h
  obtain ⟨rfl, rfl⟩ := Prod.mk.inj (pure_eq_ok.1 h)
  exact ⟨schema, wanted, columns, selected, conditions, hschema, hwanted, hcolumns, hp, hselected,
    hconditions, hq⟩

private theorem whole_of_gathered {m : ModelClass} {filter : Value} {s : Search} {c : Catalog}
    {p : Population} {q : Select} (h : (gathered m filter s c).1 = .ok (p, q)) : q.Whole := by
  obtain ⟨schema, wanted, columns, selected, conditions, _, _, _, hp, hselected, _, hq⟩ :=
    gathered_eq_ok h
  obtain ⟨joined, _, _, _, query⟩ := joins_of_populate (.refl m c) hp rfl
  rw [query] at hselected
  obtain ⟨items, _, hselected⟩ := bind_eq_ok.1 hselected
  obtain rfl := pure_eq_ok.1 hselected
  obtain ⟨clauses, rfl, limit, offset⟩ := sorted_eq_ok hq
  intro inner mem
  rw [Select.queries, List.mem_cons] at mem
  rcases mem with rfl | mem
  · exact ⟨limit, offset⟩
  · obtain ⟨j, _, mem⟩ := mem_allQueries mem
    exact Relation.whole_of_compile j.compiled inner mem

/-! What is sent. -/

def sentTo {κ : Type} (t : Target κ) : Except Error Statement → List (Target κ × Statement)
  | .ok statement => [(t, statement)]
  | .error _ => []

section

variable {κ α : Type} {m : ModelClass} {route : Route κ} {o : Action Catalog (Request κ α)}
  {c c' : Catalog} {rendered : Except Error Statement} {finish : Reply → Except Error α}
  (replies : Replies κ)

private theorem sending_of_error {e : Error} {statement : Statement} (h : target c m route = .error e) :
    (sending m route statement finish c).1 = .error e := by
  rw [sending, Action.bind_apply, Action.get_apply, Action.lift_bind_fst, h]
  rfl

variable (h : (o c).1 = rendered >>= fun statement => (sending m route statement finish c').1)
include h

theorem sent_of_target {t : Target κ} (reached : target c' m route = .ok t) :
    (observe replies o c).2 = sentTo t rendered := by
  cases rendered with
  | error e => rw [observe_of_error h, sentTo]
  | ok statement => rw [observe_of_ok (h.trans (sending_eq_ok reached)), sentTo]

theorem sent_of_target_error {e : Error} (reached : target c' m route = .error e) :
    (observe replies o c).2 = [] := by
  cases rendered with
  | error e => rw [observe_of_error h]
  | ok statement => rw [observe_of_error (h.trans (sending_of_error reached))]

end

/-- Whatever its limit, a search sends nothing, or there is one query that it limits and sends. -/
theorem sent_by_findMany {κ : Type} (fns : Functions) (m : ModelClass) (filter : Value) (s : Search)
    (route : Route κ) (replies : Replies κ) (c : Catalog) : let sends (limit offset : Value) :=
      (observe replies (findMany fns m filter { s with limit, offset } route) c).2
    (∀ limit offset, sends limit offset = []) ∨ ∃ (t : Target κ) (q : Select), q.Whole ∧
      ∀ limit offset, sends limit offset = sentTo t (Search.cut { s with limit, offset } q).render := by
  intro sends
  have same (limit offset : Value) :
    gathered m filter { s with limit, offset } = gathered m filter s := rfl
  rcases gather : gathered m filter s c with ⟨outcome, c'⟩
  cases outcome with
  | error e =>
    left
    intro limit offset
    apply congrArg Prod.snd (observe_of_error (e := e) _)
    rw [findMany_eq, same, Action.bind_of_error gather]
  | ok whole =>
    have fst (limit offset : Value) : (findMany fns m filter { s with limit, offset } route c).1 =
        (Search.cut { s with limit, offset } whole.2).render >>= fun statement =>
          (sending m route statement (found fns m whole.1.joined) c').1 := by
      rw [findMany_eq, same, Action.bind_of_ok gather, Action.lift_bind_fst]
    cases reached : target c' m route with
    | error e =>
      left
      intro limit offset
      exact sent_of_target_error replies (fst limit offset) reached
    | ok t =>
      right
      refine ⟨t, whole.2, whole_of_gathered (congrArg Prod.fst gather), ?_⟩
      intro limit offset
      exact sent_of_target replies (fst limit offset) reached

private theorem cut_of_limit {s : Search} {limit offset : Int} (given : limit ≠ 0) (q : Select) :
    Search.cut { s with limit := .int limit, offset := .int offset } q = q.cut limit offset := by
  have limited : (Value.int limit).truthy := by simpa [Value.truthy] using given
  have skipping : (Value.int offset).truthy = !decide (offset = 0) := by
    simp [Value.truthy, bne, BEq.beq]
  unfold Search.cut Select.cut
  simp only [limited, skipping, if_true]
  by_cases start : offset = 0 <;> simp [start]

private theorem sentTo_cut {κ : Type} (t : Target κ) {q : Select} (whole : q.Whole) (limit offset : Int) :
    sentTo t (q.cut limit offset).render =
      if Number.isOverlong limit || Number.isOverlong offset then []
      else (sentTo t q.render).map fun sent => (sent.1, sent.2.cut limit offset) := by
  rw [render_cut whole]
  cases Number.isOverlong limit || Number.isOverlong offset with
  | true => cases q.render <;> rfl
  | false => cases q.render <;> rfl

/-- What a search with a limit sends. Its statement is the one without a limit, with the limit and the
offset behind, as the limited query renders. A number that is too long to be written sends nothing. But a
limit of zero is no limit, whatever the offset. -/
theorem sent_with_limit {κ : Type} (fns : Functions) (m : ModelClass) (filter : Value) (s : Search)
    (route : Route κ) (replies : Replies κ) (c : Catalog) :
    let sends (limit offset : Value) :=
      (observe replies (findMany fns m filter { s with limit, offset } route) c).2
    let all := sends .null (.int 0)
    (∀ sent ∈ all, ∃ q : Select, q.render = .ok sent.2 ∧ q.Whole ∧ ∀ limit offset : Int,
      Number.isOverlong limit = false → Number.isOverlong offset = false →
        (q.cut limit offset).render = .ok (sent.2.cut limit offset)) ∧
    (∀ offset : Value, sends .null offset = all) ∧
    (∀ offset : Value, sends (.int 0) offset = all) ∧
    ∀ limit offset : Int, limit ≠ 0 →
      sends (.int limit) (.int offset) =
        if Number.isOverlong limit || Number.isOverlong offset then []
        else all.map fun sent => (sent.1, sent.2.cut limit offset) := by
  intro sends all
  rcases sent_by_findMany fns m filter s route replies c with none | ⟨t, q, whole, some⟩
  · have nothing : all = [] := none ..
    rw [nothing]
    refine ⟨nofun, fun _ => none .., fun _ => none .., fun limit offset _ => ?_⟩
    rw [List.map_nil, ite_self]
    exact none ..
  · have uncut : all = sentTo t q.render := some ..
    rw [uncut]
    refine ⟨?_, fun _ => some .., fun _ => some .., fun limit offset given => ?_⟩
    · intro sent mem
      cases rendered : q.render with
      | error e =>
        rw [rendered] at mem
        nomatch mem
      | ok statement =>
        rw [rendered] at mem
        obtain rfl := List.mem_singleton.1 mem
        refine ⟨q, rendered, whole, fun limit offset short short' => ?_⟩
        rw [render_cut whole, rendered, short, short']
        rfl
    · rw [← sentTo_cut t whole, ← cut_of_limit given]
      exact some ..

def usersSent (limit offset : Value) : List (Target Unit × Statement) :=
  (observe silent (findMany Function.catalogue (user users) .null { limit, offset } (.given ()))
    knownUsers).2

def allUsers : Select := .mk [.text "users.*"] (.table "users") [] {}

theorem sent_with_limit_users : (10 : Int) ≠ 0 ∧ usersSent (.int 10) (.int 20) =
    [(.given (), ⟨"SELECT users.* FROM users LIMIT 10 OFFSET 20", []⟩)] := by
  have given : (10 : Int) ≠ 0 := by decide
  have ten : Number.isOverlong 10 = false := by decide +kernel
  have twenty : Number.isOverlong 20 = false := by decide +kernel
  obtain ⟨_, _, _, limited⟩ :=
    sent_with_limit Function.catalogue (user users) .null {} (.given ()) silent knownUsers
  refine ⟨given, ?_⟩
  have sent := limited 10 20 given
  rw [ten, twenty] at sent
  exact sent

/-- With a limit of zero all users are asked for, but the query with that limit asks for none. -/
theorem limit_lost :
    usersSent (.int 0) (.int 0) = [(.given (), ⟨"SELECT users.* FROM users", []⟩)] ∧
      allUsers.render = .ok ⟨"SELECT users.* FROM users", []⟩ ∧
      (allUsers.limit (.int 0)).render = .ok ⟨"SELECT users.* FROM users LIMIT 0", []⟩ ∧
      ¬"LIMIT".toList <:+: "SELECT users.* FROM users".toList := by
  have zero : Number.isOverlong 0 = false := by decide +kernel
  have letter : 'I' ∈ "LIMIT".toList := by decide
  have whole : allUsers.Whole := by
    intro inner mem
    obtain rfl := List.mem_singleton.1 mem
    exact ⟨rfl, rfl⟩
  refine ⟨rfl, rfl, ?_, fun there => absurd (there.subset letter) (by decide)⟩
  have rendered := render_cut whole 0 0
  have cut : allUsers.cut 0 0 = allUsers.limit (.int 0) := rfl
  rw [zero, cut] at rendered
  exact rendered

end Operation

end RecordMapper
