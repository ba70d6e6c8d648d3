import RecordMapper.Operation.Lookup
import RecordMapper.Proofs.Model.Target
import RecordMapper.Proofs.Operation.Sending

/-!
Where statements go. An operation works out a plan, which is its statement and what is made of the
reply, without a look at where the statement is to run. Only then is a target looked for, for the model
that the operation runs on. Main statement: the request of an operation is its plan with that target.
-/
namespace RecordMapper

namespace Operation

/-- An operation with what it is given, apart from where its statement is to run. -/
inductive Invocation
  | execute (m : ModelClass) (text : String) (values : Value)
  | findMany (m : ModelClass) (filter : Value) (search : Search)
  | findOne (m : ModelClass) (filter : Value) (search : Search)
  | findOneById (m : ModelClass) (id : Value) (search : Search)
  | findOneByPartial (partialRecord : Value) (options : List (String × Value))
  | insert (m : ModelClass) (data : Value)
  | save (r : Record) (options : List (String × Value))
  | updateMany (m : ModelClass) (filter values : Value)
  | update (r : Record)
  | deleteMany (m : ModelClass) (filter : Value)
  | delete (r : Record)

inductive Answer
  | reply (reply : Reply)
  | records (records : List Record)
  | record (record : Option Record)
  | saved (saved : Reply × Record)

/-- A statement, and what is made of the reply to it. -/
abbrev Plan (α : Type) := Sql.Statement × (Reply → Except Error α)

variable {κ α β : Type}

namespace Invocation

def request (fns : Functions) (route : Route κ) : Invocation → Action Catalog (Request κ Answer)
  | execute m text values => return (← Operation.execute m text values route).map .reply
  | findMany m filter search => return (← Operation.findMany fns m filter search route).map .records
  | findOne m filter search => return (← Operation.findOne fns m filter search route).map .record
  | findOneById m id search => return (← Operation.findOneById fns m id search route).map .record
  | findOneByPartial v options => return (← Operation.findOneByPartial fns v options route).map .record
  | insert m data => return (← Operation.insert m data route).map .reply
  | save r options => return (← Operation.save r options route).map .saved
  | updateMany m filter values => return (← Operation.updateMany m filter values route).map .reply
  | update r => return (← Operation.update r route).map .reply
  | deleteMany m filter => return (← Operation.deleteMany m filter route).map .reply
  | delete r => return (← Operation.delete r route).map .reply

def model? (c : Catalog) : Invocation → Option ModelClass
  | execute m _ _ | findMany m _ _ | findOne m _ _ | findOneById m _ _ => some m
  | insert m _ | updateMany m _ _ | deleteMany m _ => some m
  | findOneByPartial v _ => (c.record? v).map (·.model)
  | save r _ | update r | delete r => some r.model

/-- What an operation works out: its request, as far as it does not tell where it is sent. -/
def plan (fns : Functions) (i : Invocation) : Action Catalog (Plan Answer) := do
  let r ← i.request fns (.given ())
  return (r.statement, r.finish)

end Invocation

def dispatch (c : Catalog) (m : ModelClass) (route : Route κ) (p : Except Error (Plan α)) :
    Except Error (Request κ α) := do
  let (statement, finish) ← p
  return { target := ← target c m route, statement, finish }

/-- From a catalog, an operation comes to one plan for all routes, which it sends for a model. On the
way it leaves all bindings as they are. -/
def Routed (c : Catalog) (m : ModelClass) (o : (κ : Type) → Route κ → Action Catalog (Request κ α)) :
    Prop :=
  ∃ p c', c'.bindings = c.bindings ∧ ∀ κ route, o κ route c = (dispatch c m route p, c')

section

variable {c : Catalog} {m : ModelClass}

theorem target_congr {c' : Catalog} (h : c'.bindings = c.bindings) (route : Route κ) :
    target c' m route = target c m route := by
  cases route with
  | registered => rw [target, target, Catalog.database?_congr h]
  | given k => rfl
  | unusable failure => rfl

private theorem dispatch_congr {c' : Catalog} (h : c'.bindings = c.bindings) (route : Route κ)
    (p : Except Error (Plan α)) : dispatch c' m route p = dispatch c m route p := by
  simp only [dispatch, target_congr h]

theorem routed_sending (s : Sql.Statement) (finish : Reply → Except Error α) :
    Routed c m fun _ route => sending m route s finish :=
  ⟨.ok (s, finish), c, rfl, fun κ route => by
    simp only [sending, Action.bind_apply, Action.get_apply, Action.lift_apply, dispatch]
    cases target c m route <;> rfl⟩

theorem Routed.bind {a : Action Catalog β}
    {f : β → (κ : Type) → Route κ → Action Catalog (Request κ α)}
    (kept : (a c).2.bindings = c.bindings) (next : ∀ x, (a c).1 = .ok x → Routed (a c).2 m (f x)) :
    Routed c m fun κ route => a >>= fun x => f x κ route := by
  rcases made : a c with ⟨e | x, c₁⟩
  · rw [made] at kept
    exact ⟨.error e, c₁, kept, fun κ route => Action.bind_of_error made _⟩
  · rw [made] at kept next
    obtain ⟨p, c', kept', each⟩ := next x rfl
    refine ⟨p, c', kept'.trans kept, fun κ route => ?_⟩
    refine (Action.bind_of_ok made _).trans ?_
    rw [each, dispatch_congr kept]

theorem Routed.lift {x : Except Error β} {f : β → (κ : Type) → Route κ → Action Catalog (Request κ α)}
    (next : ∀ a, x = .ok a → Routed c m (f a)) :
    Routed c m fun κ route => liftM x >>= fun a => f a κ route :=
  .bind rfl next

theorem Routed.fail (e : Error) :
    Routed c m fun κ _ => (throw e : Action Catalog (Request κ α)) :=
  ⟨.error e, c, rfl, fun _ _ => rfl⟩

theorem Routed.map {o : (κ : Type) → Route κ → Action Catalog (Request κ α)} (h : Routed c m o)
    (g : α → β) : Routed c m fun κ route => o κ route >>= fun r => pure (r.map g) := by
  obtain ⟨p, c', kept, each⟩ := h
  refine ⟨p.map fun x => (x.1, fun reply => (x.2 reply).map g), c', kept, fun κ route => ?_⟩
  refine (Action.bind_apply (o κ route) (fun r => pure (r.map g)) c).trans ?_
  rw [each]
  cases p with
  | error e => rfl
  | ok x => cases h : target c m route <;> simp [dispatch, h, Except.map] <;> rfl

theorem Routed.ite {b : Bool} {o o' : (κ : Type) → Route κ → Action Catalog (Request κ α)}
    (h : Routed c m o) (h' : Routed c m o') :
    Routed c m fun κ route => if b then o κ route else o' κ route := by
  cases b with
  | true => exact h
  | false => exact h'

/-! Each operation. -/

theorem routed_execute (text : String) (values : Value) :
    Routed c m fun _ route => execute m text values route := by
  unfold execute
  refine .ite (.fail _) ?_
  split
  all_goals exact .lift fun _ _ => routed_sending ..

theorem routed_insert (data : Value) : Routed c m fun _ route => insert m data route :=
  .lift fun _ _ => .lift fun _ _ => .lift fun _ _ => routed_sending ..

theorem routed_updateMany (filter values : Value) :
    Routed c m fun _ route => updateMany m filter values route :=
  .lift fun _ _ => .lift fun _ _ => .lift fun _ _ => routed_sending ..

theorem routed_deleteMany (filter : Value) : Routed c m fun _ route => deleteMany m filter route := by
  unfold deleteMany
  refine .ite ?_ (.fail _)
  exact .lift fun _ _ => .lift fun _ _ => .lift fun _ _ => routed_sending ..

theorem routed_save (r : Record) (options : List (String × Value)) :
    Routed c r.model fun _ route => save r options route :=
  .lift fun _ _ => .lift fun _ _ => .lift fun _ _ => .lift fun _ _ => .lift fun _ _ => routed_sending ..

theorem routed_update (r : Record) : Routed c r.model fun _ route => update r route :=
  .lift fun _ _ => .lift fun _ _ => .lift fun _ _ => .lift fun _ _ => .lift fun _ _ => routed_sending ..

theorem routed_delete (r : Record) : Routed c r.model fun _ route => delete r route :=
  .lift fun _ _ => .lift fun _ _ => .lift fun _ _ => .lift fun _ _ => routed_sending ..

theorem bindings_of_bind {a : Action Catalog α} {f : α → Action Catalog β}
    (first : (a c).2.bindings = c.bindings) (next : ∀ x c', (f x c').2.bindings = c'.bindings) :
    ((a >>= f) c).2.bindings = c.bindings := by
  rcases made : a c with ⟨e | x, c'⟩
  · rw [made] at first
    rw [Action.bind_of_error made]
    exact first
  · rw [made] at first
    rw [Action.bind_of_ok made]
    exact (next x c').trans first

private theorem bindings_of_resolve (d : DatabaseId) (k : RelationRef) (c : Catalog) :
    (Catalog.resolve d k c).2.bindings = c.bindings := by
  simp only [Catalog.resolve, Action.bind_apply, Action.get_apply]
  cases c.target? k with
  | some target => rfl
  | none => cases (c.registry d).get? k.relation.model <;> rfl

private theorem bindings_of_populate (m : ModelClass) (table : String) (relations : List (String × Relation))
    (p : Population) (c : Catalog) : (populate m table relations p c).2.bindings = c.bindings := by
  induction relations generalizing p c with
  | nil => rfl
  | cons relation relations ih =>
    refine bindings_of_bind rfl fun _ _ => bindings_of_bind rfl fun _ _ => ?_
    refine bindings_of_bind (bindings_of_resolve ..) fun _ _ => ?_
    exact bindings_of_bind rfl fun _ _ => bindings_of_bind rfl fun _ _ => ih ..

theorem routed_findMany (fns : Functions) (filter : Value) (s : Search) :
    Routed c m fun _ route => findMany fns m filter s route := by
  unfold findMany
  refine .lift fun schema _ => ?_
  refine .ite ?_ ?_
  all_goals
    refine .lift fun columns _ => .lift fun wanted _ => ?_
    refine .bind (bindings_of_populate ..) fun p _ => ?_
    exact .lift fun _ _ => .lift fun _ _ => .lift fun _ _ => .lift fun _ _ => routed_sending ..

theorem routed_findOne (fns : Functions) (filter : Value) (s : Search) :
    Routed c m fun _ route => findOne fns m filter s route :=
  (routed_findMany fns filter _).map List.head?

theorem routed_findOneById (fns : Functions) (id : Value) (s : Search) :
    Routed c m fun _ route => findOneById fns m id s route :=
  .lift fun _ _ => routed_findOne ..

theorem routed_findOneByPartial (fns : Functions) {v : Value} {r : Record} (h : c.record? v = some r)
    (options : List (String × Value)) :
    Routed c r.model fun _ route => findOneByPartial fns v options route := by
  unfold findOneByPartial
  refine .bind rfl fun c₁ hc => ?_
  obtain rfl := Except.ok.inj hc
  rw [h]
  exact .lift fun _ _ => .lift fun _ _ => routed_findOne ..

namespace Invocation

theorem routed_request (fns : Functions) {i : Invocation} (h : i.model? c = some m) :
    Routed c m fun _ route => i.request fns route := by
  cases i with
  | findOneByPartial v options =>
    obtain ⟨r, hr, rfl⟩ := Option.map_eq_some_iff.1 h
    exact (routed_findOneByPartial fns hr options).map _
  | execute _ text values => cases h; exact (routed_execute text values).map _
  | findMany _ filter s => cases h; exact (routed_findMany fns filter s).map _
  | findOne _ filter s => cases h; exact (routed_findOne fns filter s).map _
  | findOneById _ id s => cases h; exact (routed_findOneById fns id s).map _
  | insert _ data => cases h; exact (routed_insert data).map _
  | updateMany _ filter values => cases h; exact (routed_updateMany filter values).map _
  | deleteMany _ filter => cases h; exact (routed_deleteMany filter).map _
  | save r options => cases h; exact (routed_save r options).map _
  | update r => cases h; exact (routed_update r).map _
  | delete r => cases h; exact (routed_delete r).map _

/-- The request of an operation is its plan, with a target for its model. -/
theorem request_eq_dispatch (fns : Functions) {i : Invocation} (h : i.model? c = some m)
    (route : Route κ) :
    i.request fns route c = (dispatch c m route (i.plan fns c).1, (i.plan fns c).2) := by
  obtain ⟨p, c', _, each⟩ := routed_request fns h
  beta_reduce at each
  have planned : i.plan fns c = (p, c') := by
    rw [plan, Action.bind_apply, each]
    cases p <;> rfl
  rw [each, planned]

theorem request_of_model?_eq_none (fns : Functions) {i : Invocation} (h : i.model? c = none)
    (route : Route κ) : i.request fns route c = (.error .partialNotRecord, c) := by
  cases i with
  | findOneByPartial v options =>
    have noRecord : c.record? v = none := Option.map_eq_none_iff.1 h
    simp only [request, Operation.findOneByPartial, Action.bind_apply, Action.get_apply, noRecord]
    rfl
  | _ => cases h

theorem plan_of_model?_eq_none (fns : Functions) {i : Invocation} (h : i.model? c = none) :
    i.plan fns c = (.error .partialNotRecord, c) := by
  rw [plan, Action.bind_apply, request_of_model?_eq_none fns h]

theorem request_given (fns : Functions) (i : Invocation) (k : κ) (c : Catalog) :
    i.request fns (.given k) c =
      ((i.plan fns c).1.map fun p => ⟨.given k, p.1, p.2⟩, (i.plan fns c).2) := by
  cases h : i.model? c with
  | none =>
    rw [request_of_model?_eq_none fns h, plan_of_model?_eq_none fns h]
    rfl
  | some m =>
    rw [request_eq_dispatch fns h]
    cases (i.plan fns c).1 <;> rfl

end Invocation

end

end Operation

end RecordMapper
