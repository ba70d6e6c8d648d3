import RecordMapper.Proofs.Connection.Outline
import RecordMapper.Proofs.Operation.Routing

/-!
What pools and connections are asked for. An operation made for one thing at the most, and if it is
given a connection, it made that connection. So the steps of a transaction that hand their connection
on to all their operations keep to this connection, and the pools are asked for nothing but it.
-/
namespace RecordMapper.Operation

open Transaction

variable {σ α : Type}

/-- What is asked of the pools of databases, and of connections. The number of a connection is that of
everything that was asked before it. -/
inductive Traffic
  | pooled (d : DatabaseId) (s : Sql.Statement)
  | acquire (d : DatabaseId)
  | start (connection : Nat)
  | query (connection : Nat) (s : Sql.Statement)
  | commit (connection : Nat)
  | rollback (connection : Nat)
  | release (connection : Nat)

/-- Databases in some state, a catalog of the models on them, and the traffic so far. -/
structure World (σ : Type) where
  databases : σ
  catalog : Catalog := {}
  traffic : List Traffic := []

namespace World

def allDatabases : Part (World σ) σ := ⟨(·.databases), fun x w => { w with databases := x }⟩

def catalogs : Part (World σ) Catalog := ⟨(·.catalog), fun c w => { w with catalog := c }⟩

def asked (x : Traffic) (a : Action σ α) : Action (World σ) α := do
  modify fun w => { w with traffic := w.traffic ++ [x] }
  a.within allDatabases

def watchedConnection (n : Nat) (c : Connection σ) : Connection (World σ) where
  query s := asked (.query n s) (c.query s)
  start := asked (.start n) c.start
  commit := asked (.commit n) c.commit
  rollback := asked (.rollback n) c.rollback
  release := asked (.release n) c.release

def watchedPool (d : DatabaseId) (p : Pool σ) : Pool (World σ) where
  query s := asked (.pooled d s) (p.query s)
  acquire := do
    let w ← get
    return watchedConnection w.traffic.length (← asked (.acquire d) p.acquire)
  close := p.close.within allDatabases

def send (pools : DatabaseId → Pool σ) :
    Target (Connection (World σ)) → Sql.Statement → Action (World σ) Reply
  | .pool d, s => (watchedPool d (pools d)).query s
  | .given c, s => c.query s

theorem asked_apply (x : Traffic) (a : Action σ α) (w : World σ) :
    asked x a w = ((a w.databases).1,
      { w with databases := (a w.databases).2, traffic := w.traffic ++ [x] }) := rfl

end World

open World

/-- What a step of a transaction does: it runs operations, each of them in view of what came of those
before it, until it ends. -/
inductive Procedure
  | done (outcome : Except Raised Unit)
  | perform (i : Invocation) (next : Except Error Answer → Procedure)

namespace Procedure

def step (fns : Functions) (pools : DatabaseId → Pool σ) : Procedure → Step (World σ)
  | done outcome, _ => fun w => (outcome, w)
  | perform i next, c => fun w =>
    let (outcome, w) := Operation.run World.catalogs (send pools) (i.request fns (.given c)) w
    (next outcome).step fns pools c w

/-- From one catalog to another, a procedure can send these statements: one for each of its operations
that comes to a plan, in their order. -/
inductive Sends (fns : Functions) : Procedure → Catalog → List Sql.Statement → Catalog → Prop
  | done (outcome : Except Raised Unit) (c : Catalog) : Sends fns (done outcome) c [] c
  | failed {i : Invocation} {next : Except Error Answer → Procedure} {c c' c'' : Catalog} {e : Error}
      {later : List Sql.Statement} (planned : i.plan fns c = (.error e, c'))
      (rest : Sends fns (next (.error e)) c' later c'') : Sends fns (perform i next) c later c''
  | sent {i : Invocation} {next : Except Error Answer → Procedure} {c c' c'' : Catalog}
      {s : Sql.Statement} {finish : Reply → Except Error Answer} {later : List Sql.Statement}
      (planned : i.plan fns c = (.ok (s, finish), c')) (reply : Except Error Reply)
      (rest : Sends fns (next (reply >>= finish)) c' later c'') :
      Sends fns (perform i next) c (s :: later) c''

end Procedure

variable {fns : Functions} {pools : DatabaseId → Pool σ}

private theorem run_request_given (i : Invocation) (n : Nat) (c : Connection σ) (w : World σ) :
    Operation.run World.catalogs (send pools) (i.request fns (.given (watchedConnection n c))) w =
      match i.plan fns w.catalog with
      | (.error e, c') => (.error e, { w with catalog := c' })
      | (.ok (s, finish), c') => ((c.query s w.databases).1 >>= finish,
        { databases := (c.query s w.databases).2
          catalog := c'
          traffic := w.traffic ++ [.query n s] }) := by
  rw [Operation.run, Action.bind_apply, Action.within_apply, World.catalogs, Invocation.request_given]
  rcases i.plan fns w.catalog with ⟨e | ⟨s, finish⟩, c'⟩
  · rfl
  · change (asked (.query n s) (c.query s) >>= fun reply => liftM (finish reply)) _ = _
    rw [Action.bind_apply, asked_apply]
    dsimp only
    rcases c.query s w.databases with ⟨e | reply, t⟩ <;> rfl

variable (fns pools) in
theorem traffic_of_step (p : Procedure) (n : Nat) (c : Connection σ) (w : World σ) :
    ∃ statements,
      p.Sends fns w.catalog statements (p.step fns pools (watchedConnection n c) w).2.catalog ∧
      (p.step fns pools (watchedConnection n c) w).2.traffic =
        w.traffic ++ statements.map (Traffic.query n) := by
  induction p generalizing w with
  | done outcome => exact ⟨[], .done .., by simp [Procedure.step]⟩
  | perform i next ih =>
    simp only [Procedure.step, run_request_given]
    rcases planned : i.plan fns w.catalog with ⟨e | ⟨s, finish⟩, c'⟩
    · obtain ⟨later, sends, traffic⟩ := ih (.error e) { w with catalog := c' }
      exact ⟨later, .failed planned sends, traffic⟩
    · obtain ⟨later, sends, traffic⟩ := ih ((c.query s w.databases).1 >>= finish)
        { databases := (c.query s w.databases).2
          catalog := c'
          traffic := w.traffic ++ [.query n s] }
      exact ⟨s :: later, .sent planned _ sends, by simpa using traffic⟩

/-! A whole transaction. -/

/-- What a call to the connection of a transaction amounts to. -/
def TrafficOf (fns : Functions) (ps : List Procedure) (n : Nat) : Call → List Traffic → Prop
  | .start, new => new = [.start n]
  | .step i, new => ∃ p statements c c', ps[i]? = some p ∧ p.Sends fns c statements c' ∧
      new = statements.map (.query n)
  | .commit, new => new = [.commit n]
  | .rollback, new => new = [.rollback n]
  | .release, new => new = [.release n]

variable (fns pools) in
theorem traffic_of_call (ps : List Procedure) (n : Nat) (c : Connection σ) (call : Call)
    (known : ∀ i, call = .step i → i < ps.length) (w : World σ) :
    ∃ new, TrafficOf fns ps n call new ∧
      (call.perform (watchedConnection n c) (ps.map (Procedure.step fns pools)) w).2.traffic =
        w.traffic ++ new := by
  cases call with
  | step i =>
    have high := known i rfl
    have here : ps[i]? = some ps[i] := List.getElem?_eq_getElem high
    obtain ⟨statements, sends, traffic⟩ := traffic_of_step fns pools ps[i] n c w
    refine ⟨_, ⟨_, statements, _, _, here, sends, rfl⟩, ?_⟩
    rw [perform_step _ (by rw [List.getElem?_map, here]; rfl)]
    exact traffic
  | start | commit | rollback | release => exact ⟨_, rfl, rfl⟩

/-- A procedure can send these statements, from some catalog. -/
def Procedure.CanSend (fns : Functions) (p : Procedure) (statements : List Sql.Statement) : Prop :=
  ∃ c c', p.Sends fns c statements c'

/-- The traffic of a transaction on a database. What its steps send goes to the connection that was
borrowed, step by step, after the start and before the commit or the rollback. -/
inductive Course (fns : Functions) (ps : List Procedure) (d : DatabaseId) (n : Nat) :
    List Traffic → Prop
  | idle (none : ps = []) : Course fns ps d n []
  | refused : Course fns ps d n [.acquire d]
  | unstarted : Course fns ps d n [.acquire d, .start n, .release n]
  | committed {sent : List (List Sql.Statement)} (each : List.Forall₂ (·.CanSend fns ·) ps sent) :
    Course fns ps d n (.acquire d :: .start n :: sent.flatten.map (.query n) ++ [.commit n, .release n])
  | uncommitted {sent : List (List Sql.Statement)} (each : List.Forall₂ (·.CanSend fns ·) ps sent) :
    Course fns ps d n
      (.acquire d :: .start n :: sent.flatten.map (.query n) ++ [.commit n, .rollback n, .release n])
  | undone (k : Nat) {sent : List (List Sql.Statement)}
    (each : List.Forall₂ (·.CanSend fns ·) (ps.take k) sent) :
    Course fns ps d n
      (.acquire d :: .start n :: sent.flatten.map (.query n) ++ [.rollback n, .release n])

private theorem sent_of_parts {ps : List Procedure} {n : Nat} {parts : List (List Traffic)}
    (h : List.Forall₂ (fun p new => ∃ statements, p.CanSend fns statements ∧
      new = statements.map (Traffic.query n)) ps parts) :
    ∃ sent, List.Forall₂ (·.CanSend fns ·) ps sent ∧
      parts.flatten = sent.flatten.map (Traffic.query n) := by
  induction h with
  | nil => exact ⟨[], .nil, rfl⟩
  | cons first _ ih =>
    obtain ⟨statements, sends, rfl⟩ := first
    obtain ⟨sent, each, all⟩ := ih
    exact ⟨statements :: sent, .cons sends each, by simp [all]⟩

private theorem course_of_calls {ps : List Procedure} {d : DatabaseId} {n : Nat} {o : Call → Option Raised}
    {calls : List Call} {parts : List (List Traffic)} (outline : Outline o ps.length calls)
    (h : List.Forall₂ (TrafficOf fns ps n) calls parts) :
    Course fns ps d n (.acquire d :: parts.flatten) := by
  have sendable (i : Nat) (new : List Traffic) (h : TrafficOf fns ps n (.step i) new) :
      ∃ p, ps[i]? = some p ∧ ∃ statements, p.CanSend fns statements ∧
        new = statements.map (Traffic.query n) := by
    obtain ⟨p, statements, c, c', here, sends, rfl⟩ := h
    exact ⟨p, here, statements, ⟨c, c', sends⟩, rfl⟩
  -- The traffic of the start and the steps, and that of the calls behind them.
  have front {k : Nat} {rest : List Call} {parts : List (List Traffic)}
      (h : List.Forall₂ (TrafficOf fns ps n) (.start :: ((List.range' 0 k).map .step ++ rest)) parts) :
      ∃ sent last, List.Forall₂ (·.CanSend fns ·) (ps.take k) sent ∧
        List.Forall₂ (TrafficOf fns ps n) rest last ∧
        parts.flatten = .start n :: sent.flatten.map (.query n) ++ last.flatten := by
    obtain ⟨_, later, rfl, tail, rfl⟩ := List.forall₂_cons_left_iff.1 h
    obtain ⟨new, last, added, ends, rfl⟩ := parts_of_steps sendable tail
    obtain ⟨sent, each, all⟩ := sent_of_parts added
    exact ⟨sent, last, each, ends, by rw [List.flatten_cons, List.flatten_append, all]; rfl⟩
  cases outline with
  | unstarted =>
    simp [List.forall₂_cons_left_iff, TrafficOf] at h
    subst h
    exact .unstarted
  | committed =>
    obtain ⟨sent, last, each, ends, flat⟩ := front h
    simp [List.forall₂_cons_left_iff, TrafficOf] at ends
    rw [List.take_length] at each
    rw [flat, ends]
    exact .committed each
  | uncommitted =>
    obtain ⟨sent, last, each, ends, flat⟩ := front h
    simp [List.forall₂_cons_left_iff, TrafficOf] at ends
    rw [List.take_length] at each
    rw [flat, ends]
    exact .uncommitted each
  | @undone k =>
    obtain ⟨sent, last, each, ends, flat⟩ := front h
    simp [List.forall₂_cons_left_iff, TrafficOf] at ends
    rw [flat, ends]
    exact .undone k each

private theorem acquire_watchedPool (d : DatabaseId) (p : Pool σ) (w : World σ) :
    (watchedPool d p).acquire w =
      ((p.acquire w.databases).1.map (watchedConnection w.traffic.length),
        { w with databases := (p.acquire w.databases).2, traffic := w.traffic ++ [.acquire d] }) := by
  simp only [watchedPool, Action.bind_apply, Action.get_apply, asked_apply]
  cases (p.acquire w.databases).1 <;> rfl

/-- The traffic of a transaction, the steps of which give their connection to all their operations. -/
private theorem course_of_run (d : DatabaseId) (ps : List Procedure) (w : World σ) :
    ∃ new, Course fns ps d w.traffic.length new ∧
      (Transaction.run (watchedPool d (pools d)) (ps.map (Procedure.step fns pools)) w).2.traffic =
        w.traffic ++ new := by
  by_cases none : ps = []
  · subst none
    exact ⟨[], .idle rfl, (List.append_nil _).symm⟩
  have some : ps.map (Procedure.step fns pools) ≠ [] := by simpa using none
  have acquired := acquire_watchedPool d (pools d) w
  rcases h : (pools d).acquire w.databases with ⟨e | c, t⟩
  · rw [h] at acquired
    refine ⟨[.acquire d], .refused, ?_⟩
    rw [Transaction.run, if_neg (by simpa using none), acquired]
    rfl
  · rw [h] at acquired
    obtain ⟨runs, _⟩ := run_of_acquire some acquired
    rw [List.length_map] at runs
    obtain ⟨parts, each, traffic⟩ := log_of_runs World.traffic
      (fun call _ => TrafficOf fns ps w.traffic.length call) runs fun call mem =>
      traffic_of_call fns pools ps w.traffic.length c call fun i same => step_of_mem_calls (same ▸ mem)
    exact ⟨_, course_of_calls (outline_of_calls ..) each, by rw [traffic]; simp⟩

private theorem observe_request {κ : Type} (fns : Functions) (replies : Replies κ) (i : Invocation)
    (route : Route κ) (c : Catalog) :
    let observed := observe replies (i.request fns route) c
    match (i.plan fns c).1, route with
    | .error e, _ => observed = (.error e, [])
    | .ok (s, finish), .given k => observed = (replies (.given k) s >>= finish, [(.given k, s)])
    | .ok _, .unusable e => observed = (.error e, [])
    | .ok (s, finish), .registered =>
      match (i.model? c).bind c.database? with
      | some d => observed = (replies (.pool d) s >>= finish, [(.pool d, s)])
      | none => observed = (.error .noConnection, []) := by
  intro observed
  cases model : i.model? c with
  | none =>
    rw [i.plan_of_model?_eq_none fns model]
    exact observe_of_error (by rw [i.request_of_model?_eq_none fns model])
  | some m =>
    have request := i.request_eq_dispatch fns model route
    rcases planned : i.plan fns c with ⟨e | ⟨s, finish⟩, c'⟩
    · exact observe_of_error (by rw [request, planned]; rfl)
    · rw [planned] at request
      cases route with
      | given k =>
        have sent : (i.request fns (.given k) c).1 = .ok ⟨.given k, s, finish⟩ := by rw [request]; rfl
        exact observe_of_ok sent
      | unusable e => exact observe_of_error (by rw [request]; rfl)
      | registered =>
        change match c.database? m with
          | some d => observed = (replies (.pool d) s >>= finish, [(.pool d, s)])
          | none => observed = (.error .noConnection, [])
        cases found : c.database? m with
        | none => exact observe_of_error (by rw [request]; simp only [dispatch, target, found]; rfl)
        | some d =>
          have sent : (i.request fns (.registered : Route κ) c).1 = .ok ⟨.pool d, s, finish⟩ := by
            rw [request]; simp only [dispatch, target, found]; rfl
          exact observe_of_ok sent

/-- The plan of an operation, its route and the database of its model tell all that it does. What is sent
is the statement of the plan, and it goes to the connection that is given, else to the pool of the database
that the model is registered on. Without a plan, or with nowhere to send it, an operation fails and sends
nothing. A transaction whose steps give their connection to all their operations keeps to this connection,
and of the pools it only asks for the connection. -/
theorem statements_routed (fns : Functions) :
    (∀ {κ : Type} (replies : Replies κ) (i : Invocation) (route : Route κ) (c : Catalog),
      let observed := observe replies (i.request fns route) c
      match (i.plan fns c).1, route with
      | .error e, _ => observed = (.error e, [])
      | .ok (s, finish), .given k => observed = (replies (.given k) s >>= finish, [(.given k, s)])
      | .ok _, .unusable e => observed = (.error e, [])
      | .ok (s, finish), .registered =>
        match (i.model? c).bind c.database? with
        | some d => observed = (replies (.pool d) s >>= finish, [(.pool d, s)])
        | none => observed = (.error .noConnection, [])) ∧
    ∀ {σ : Type} (pools : DatabaseId → Pool σ) (d : DatabaseId) (ps : List Procedure) (w : World σ),
      ∃ new, Course fns ps d w.traffic.length new ∧
        (Transaction.run (watchedPool d (pools d)) (ps.map (Procedure.step fns pools)) w).2.traffic =
          w.traffic ++ new :=
  ⟨fun replies i route c => observe_request fns replies i route c,
    fun _ d ps w => course_of_run d ps w⟩

end RecordMapper.Operation
