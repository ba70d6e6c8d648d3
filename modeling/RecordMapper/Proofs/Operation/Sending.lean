import RecordMapper.Operation.Write
import RecordMapper.Proofs.Record.Attributes
import RecordMapper.Proofs.Sql.Rendering

/-!
What operations send. Everything that can fail before a statement is sent comes before it, so that an
operation is a plain result, the request, and what is sent is the statement of the request.
-/
namespace RecordMapper

namespace Action

variable {σ α β : Type}

theorem bind_of_ok {a : Action σ α} {s s' : σ} {x : α} (h : a s = (.ok x, s')) (f : α → Action σ β) :
    (a >>= f) s = f x s' := by
  rw [bind_apply, h]

theorem bind_of_error {a : Action σ α} {s s' : σ} {e : Error} (h : a s = (.error e, s'))
    (f : α → Action σ β) : (a >>= f) s = (.error e, s') := by
  rw [bind_apply, h]

theorem lift_bind_fst (x : Except Error α) (f : α → Action σ β) (s : σ) :
    ((liftM x >>= f) s).1 = x >>= fun a => (f a s).1 := by
  cases x <;> rfl

theorem bind_eq_ok {a : Action σ α} {f : α → Action σ β} {s : σ} {b : β} :
    ((a >>= f) s).1 = .ok b ↔ ∃ x, (a s).1 = .ok x ∧ (f x (a s).2).1 = .ok b := by
  rw [bind_apply]
  cases a s with
  | mk outcome s' => cases outcome <;> simp

end Action

namespace Operation

variable {κ α : Type}

/-- A catalog under watch: what is sent is written down. -/
structure Watched (κ : Type) where
  catalog : Catalog
  sent : List (Target κ × Sql.Statement) := []

def Watched.catalogs : Part (Watched κ) Catalog := ⟨(·.catalog), fun c w => { w with catalog := c }⟩

abbrev Replies (κ : Type) := Target κ → Sql.Statement → Except Error Reply

def answered (replies : Replies κ) (t : Target κ) (s : Sql.Statement) : Action (Watched κ) Reply := do
  modify fun w => { w with sent := w.sent ++ [(t, s)] }
  replies t s

/-- How an operation ends, and what it sends. -/
def observe (replies : Replies κ) (o : Action Catalog (Request κ α)) (c : Catalog) :
    Except Error α × List (Target κ × Sql.Statement) :=
  let (outcome, w) := run Watched.catalogs (answered replies) o { catalog := c }
  (outcome, w.sent)

section

variable {replies : Replies κ} {o : Action Catalog (Request κ α)} {c : Catalog}

theorem observe_of_error {e : Error} (h : (o c).1 = .error e) :
    observe replies o c = (.error e, []) := by
  simp [observe, run, Action.bind_apply, Watched.catalogs, h]

theorem observe_of_ok {request : Request κ α} (h : (o c).1 = .ok request) :
    observe replies o c =
      (replies request.target request.statement >>= request.finish,
        [(request.target, request.statement)]) := by
  simp only [observe, run, answered, Action.bind_apply, Watched.catalogs, Action.within_apply,
    Action.modify_apply, Action.lift_apply, h]
  cases replies request.target request.statement <;> rfl

theorem observe_congr {c' : Catalog} (h : (o c').1 = (o c).1) :
    observe replies o c' = observe replies o c := by
  cases outcome : (o c).1 with
  | error e => rw [observe_of_error outcome, observe_of_error (h.trans outcome)]
  | ok request => rw [observe_of_ok outcome, observe_of_ok (h.trans outcome)]

theorem mem_observe {sent : Target κ × Sql.Statement} (h : sent ∈ (observe replies o c).2) :
    ∃ request, (o c).1 = .ok request ∧ sent = (request.target, request.statement) := by
  cases outcome : (o c).1 with
  | error e => simp [observe_of_error outcome] at h
  | ok request =>
    rw [observe_of_ok outcome] at h
    exact ⟨request, rfl, List.mem_singleton.1 h⟩

end

def replying (reply : Reply) : Replies κ := fun _ _ => pure reply

theorem observe_eq_ok {o : Action Catalog (Request κ α)} {c : Catalog} {reply : Reply} {a : α}
    (h : (observe (replying reply) o c).1 = .ok a) :
    ∃ request, (o c).1 = .ok request ∧ request.finish reply = .ok a := by
  cases outcome : (o c).1 with
  | error e =>
    rw [observe_of_error outcome] at h
    cases h
  | ok request =>
    rw [observe_of_ok outcome] at h
    exact ⟨request, rfl, h⟩

/-! Requests as plain results, and what is known when there is one. -/

/-- The request sends a statement for a model. -/
structure Requests (c : Catalog) (m : ModelClass) (route : Route κ) (s : Sql.Statement)
    (finish : Reply → Except Error α) (request : Request κ α) : Prop where
  target : target c m route = .ok request.target
  statement : request.statement = s
  finish : request.finish = finish

section

variable {c : Catalog} {m : ModelClass} {r : Record} {route : Route κ}

theorem requests_of_sending {s : Sql.Statement} {finish : Reply → Except Error α}
    {request : Request κ α} (h : (sending m route s finish c).1 = .ok request) :
    Requests c m route s finish request := by
  rw [sending, Action.bind_apply, Action.get_apply, Action.lift_bind_fst] at h
  obtain ⟨t, ht, h⟩ := bind_eq_ok.1 h
  obtain rfl := pure_eq_ok.1 h
  exact ⟨ht, rfl, rfl⟩

theorem sending_eq_ok {s : Sql.Statement} {finish : Reply → Except Error α} {t : Target κ}
    (reached : target c m route = .ok t) :
    (sending m route s finish c).1 = .ok ⟨t, s, finish⟩ := by
  rw [sending, Action.bind_apply, Action.get_apply, Action.lift_bind_fst, reached]
  rfl

theorem deleteMany_fst {filter : Value} :
    (deleteMany m filter route c).1 =
      if filter.truthy then do
        let schema ← m.schema
        let query ← Sql.Delete.build schema.table filter
        let statement ← query.render
        (sending m route statement pure c).1
      else throw .unscopedDelete := by
  rw [deleteMany]
  cases filter.truthy with
  | false => rfl
  | true => simp only [if_true, Action.lift_bind_fst]

theorem delete_fst :
    (delete r route c).1 = (do
      r.offer .delete
      let primary ← r.requirePrimary
      let query ← Sql.Delete.build r.schema.table primary
      let statement ← query.render
      (sending r.model route statement pure c).1) := by
  simp only [delete, Action.lift_bind_fst]

theorem update_fst :
    (update r route c).1 = (do
      r.offer .update
      let primary ← r.requirePrimary
      let values ← r.askValues false
      let query ← Sql.Update.build r.schema.table values primary true
      let statement ← query.render
      (sending r.model route statement pure c).1) := by
  simp only [update, Action.lift_bind_fst]

theorem deleteMany_eq_ok {filter : Value} {request : Request κ Reply}
    (h : (deleteMany m filter route c).1 = .ok request) :
    filter.truthy ∧ ∃ schema q, m.schema = .ok schema ∧
      Sql.Delete.build schema.table filter = .ok q ∧
      Requests c m route (.ofPieces q.pieces) pure request := by
  rw [deleteMany_fst] at h
  split at h
  · rename_i given
    obtain ⟨schema, hschema, h⟩ := bind_eq_ok.1 h
    obtain ⟨q, hq, h⟩ := bind_eq_ok.1 h
    rw [q.render_eq] at h
    exact ⟨given, schema, q, hschema, hq, requests_of_sending h⟩
  · cases h

theorem delete_eq_ok {request : Request κ Reply} (h : (delete r route c).1 = .ok request) :
    r.offer .delete = .ok () ∧ ∃ primary q, r.requirePrimary = .ok primary ∧
      Sql.Delete.build r.schema.table primary = .ok q ∧
      Requests c r.model route (.ofPieces q.pieces) pure request := by
  rw [delete_fst] at h
  obtain ⟨_, offered, h⟩ := bind_eq_ok.1 h
  obtain ⟨primary, hprimary, h⟩ := bind_eq_ok.1 h
  obtain ⟨q, hq, h⟩ := bind_eq_ok.1 h
  rw [q.render_eq] at h
  exact ⟨offered, primary, q, hprimary, hq, requests_of_sending h⟩

theorem update_eq_ok {request : Request κ Reply} (h : (update r route c).1 = .ok request) :
    r.offer .update = .ok () ∧ ∃ primary values q s, r.requirePrimary = .ok primary ∧
      r.askValues false = .ok values ∧ Sql.Update.build r.schema.table values primary true = .ok q ∧
      q.render = .ok s ∧ Requests c r.model route s pure request := by
  rw [update_fst] at h
  obtain ⟨_, offered, h⟩ := bind_eq_ok.1 h
  obtain ⟨primary, hprimary, h⟩ := bind_eq_ok.1 h
  obtain ⟨values, hvalues, h⟩ := bind_eq_ok.1 h
  obtain ⟨q, hq, h⟩ := bind_eq_ok.1 h
  obtain ⟨s, hs, h⟩ := bind_eq_ok.1 h
  exact ⟨offered, primary, values, q, s, hprimary, hvalues, hq, hs, requests_of_sending h⟩

/-- The columns whose equality makes a stored row the same row. -/
def conflictKeys (r : Record) (insertOnly : Bool) : Value :=
  if insertOnly then .null else .list (r.schema.primary.map .text)

theorem save_fst {options : List (String × Value)} :
    (save r options route c).1 = (do
      r.offer .save
      let only ← insertOnly options
      let row ← r.storedRow
      let query ← Sql.Insert.build r.schema.table row.toValue (conflictKeys r only) true
      let statement ← query.render
      (sending r.model route statement (fun reply => do return (reply, ← r.adoptKeys reply)) c).1) := by
  simp only [save, Action.lift_bind_fst]
  rfl

theorem save_eq_ok {options : List (String × Value)} {request : Request κ (Reply × Record)}
    (h : (save r options route c).1 = .ok request) :
    r.offer .save = .ok () ∧ ∃ only row q s, insertOnly options = .ok only ∧
      r.storedRow = .ok row ∧
      Sql.Insert.build r.schema.table row.toValue (conflictKeys r only) true = .ok q ∧
      q.render = .ok s ∧
      Requests c r.model route s (fun reply => do return (reply, ← r.adoptKeys reply)) request := by
  rw [save_fst] at h
  obtain ⟨_, offered, h⟩ := bind_eq_ok.1 h
  obtain ⟨only, honly, h⟩ := bind_eq_ok.1 h
  obtain ⟨row, hrow, h⟩ := bind_eq_ok.1 h
  obtain ⟨q, hq, h⟩ := bind_eq_ok.1 h
  obtain ⟨s, hs, h⟩ := bind_eq_ok.1 h
  exact ⟨offered, only, row, q, s, honly, hrow, hq, hs, requests_of_sending h⟩

end

def silent : Replies Unit := replying (.list [])

end Operation

end RecordMapper
