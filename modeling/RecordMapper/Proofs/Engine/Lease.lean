import RecordMapper.Engine.Pool
import RecordMapper.Proofs.Connection.Outline
import RecordMapper.Proofs.Except

/-!
What the adapter takes from an engine it gives back. A statement of the pool and the connection test
run in a block, a transaction on a borrowed connection. However the engine fails, blocks that are
entered are left and connections that are opened are closed, before anything else is asked for.
-/
namespace RecordMapper.Engine

open Transaction

variable {σ α β : Type}

abbrev Entry := Event × Except Error Cursor

def watched (engine : Engine σ) : Engine (σ × List Entry) := fun event s =>
  ((engine event s.1).1, (engine event s.1).2, s.2 ++ [(event, (engine event s.1).1)])

/-- A step of a transaction that asks the connection for statements, each of them in view of what came
of those before it, until it ends. -/
inductive Usage
  | done (outcome : Except Raised Unit)
  | query (s : Sql.Statement) (next : Except Error Reply → Usage)

def Usage.step : Usage → Step σ
  | done outcome, _ => fun s => (outcome, s)
  | query q next, c => fun s => (next (c.query q s).1).step c (c.query q s).2

/-- Something that the adapter is asked for. -/
inductive Demand
  | query (text : String) (values : Value)
  | test
  | transaction (steps : List Usage)

/-- The state after a demand, whatever came of it. -/
def Demand.serve (engine : Engine σ) : Demand → σ → σ
  | query text values, s => (engine.executeAlone text values s).2
  | test, s => (engine.test s).2
  | transaction steps, s => (Transaction.run engine.pool (steps.map Usage.step) s).2

def serveAll (engine : Engine σ) (demands : List Demand) (s : σ) : σ :=
  demands.foldl (fun s demand => demand.serve engine s) s

/-! What the log should be. -/

def error? : Except Error α → Option Error
  | .ok _ => none
  | .error e => some e

/-- The log of a block: unless entering it fails, it is left with the error that escaped its body. -/
inductive Scoped (enter : Event) (leave : Option Error → Event)
    (body : Option Error → List Entry → Prop) : List Entry → Prop
  | refused (e : Error) : Scoped enter leave body [(enter, .error e)]
  | left (cursor : Cursor) {escaped : Option Error} {inside : List Entry}
    (ran : body escaped inside) (answer : Except Error Cursor) :
    Scoped enter leave body ((enter, .ok cursor) :: inside ++ [(leave escaped, answer)])

/-- A text is executed, and what escapes is an error of the execution or of reading the result. -/
def Executed (text : String) (parameters : Option Mapping) (read : Cursor → Except Error α)
    (escaped : Option Error) (log : List Entry) : Prop :=
  ∃ answer, log = [(.execute text parameters, answer)] ∧ escaped = error? (answer >>= read)

/-- A text is executed with the values that a value lists; without a list it is not executed. -/
def ExecutedWith (text : String) (values : Value) (escaped : Option Error) (log : List Entry) : Prop :=
  match values.toItems with
  | .error e => escaped = some e ∧ log = []
  | .ok items => Executed text (some (parameters items)) Cursor.toRows escaped log

/-- The statements of a step, answered like this. -/
inductive Usage.Log : Usage → List Entry → Prop
  | done (outcome : Except Raised Unit) : Log (done outcome) []
  | query {q : Sql.Statement} {next : Except Error Reply → Usage} {later : List Entry}
    (answer : Except Error Cursor)
    (rest : Log (next ((answer >>= Cursor.toRows).map Reply.ofRows)) later) :
    Log (query q next) ((.execute q.text (some (parameters q.values)), answer) :: later)

/-- The log of a transaction. Unless it cannot be opened, its connection is closed at the end. -/
inductive Lent (steps : List Usage) : List Entry → Prop
  | idle (none : steps = []) : Lent steps []
  | refused (e : Error) : Lent steps [(.connect, .error e)]
  | unstarted {cursor : Cursor} (e : Error) (closed : Except Error Cursor) :
    Lent steps [(.connect, .ok cursor), (.start, .error e), (.close, closed)]
  | committed {cursor started done : Cursor} {sent : List (List Entry)}
    (each : List.Forall₂ Usage.Log steps sent) (closed : Except Error Cursor) :
    Lent steps ((.connect, .ok cursor) :: (.start, .ok started) :: sent.flatten ++
      [(.commit, .ok done), (.close, closed)])
  | uncommitted {cursor started : Cursor} {sent : List (List Entry)}
    (each : List.Forall₂ Usage.Log steps sent) (e : Error) (undone closed : Except Error Cursor) :
    Lent steps ((.connect, .ok cursor) :: (.start, .ok started) :: sent.flatten ++
      [(.commit, .error e), (.rollback, undone), (.close, closed)])
  | undone {cursor started : Cursor} (k : Nat) {sent : List (List Entry)}
    (each : List.Forall₂ Usage.Log (steps.take k) sent) (undone closed : Except Error Cursor) :
    Lent steps ((.connect, .ok cursor) :: (.start, .ok started) :: sent.flatten ++
      [(.rollback, undone), (.close, closed)])

def Demand.Log : Demand → List Entry → Prop
  | query text values => Scoped .enterTransaction .leaveTransaction (ExecutedWith text values)
  | test => Scoped .enterConnection .leaveConnection
      (Executed testText none fun cursor => cursor.scalar.equals (.int 1))
  | transaction steps => Lent steps

/-- What is held of an engine. -/
inductive Holding
  | nothing
  | transaction
  | connection
  | lent

/-- What is held after an event that is in order. Something is taken only if nothing is held, and asked
only for what it can do. -/
def Holding.after : Holding → Entry → Option Holding
  | nothing, (.enterTransaction, .ok _) => some transaction
  | nothing, (.enterConnection, .ok _) => some connection
  | nothing, (.connect, .ok _) => some lent
  | nothing, (.enterTransaction, .error _) | nothing, (.enterConnection, .error _)
  | nothing, (.connect, .error _) => some nothing
  | transaction, (.execute .., _) => some transaction
  | transaction, (.leaveTransaction _, _) => some nothing
  | connection, (.execute .., _) => some connection
  | connection, (.leaveConnection _, _) => some nothing
  | lent, (.execute .., _) | lent, (.start, _) | lent, (.commit, _) | lent, (.rollback, _) => some lent
  | lent, (.close, _) => some nothing
  | _, _ => none

def Holding.follow (h : Holding) (log : List Entry) : Option Holding := log.foldlM after h

/-! What the log is. -/

/-- From any state, an action adds to the log what fits its outcome. -/
def Adds (a : σ × List Entry → β × (σ × List Entry)) (P : β → List Entry → Prop) : Prop :=
  ∀ s, ∃ new, P (a s).1 new ∧ (a s).2.2 = s.2 ++ new

theorem perform_apply (engine : Engine σ) (event : Event) (s : σ) :
    engine.perform event s = ((engine event s).1.map fun _ => (), (engine event s).2) := by
  rw [perform, Action.bind_apply]
  rcases engine event s with ⟨_ | _, _⟩ <;> rfl

private theorem state_of_block (engine : Engine σ) (enter : Event) (leave : Option Error → Event)
    (body : Action σ α) (s : σ) :
    (engine.block enter leave body s).2 =
      match engine enter s with
      | (.error _, t) => t
      | (.ok _, t) => (engine (leave (error? (body t).1)) (body t).2).2 := by
  rw [block, Action.bind_apply, perform_apply]
  rcases engine enter s with ⟨_ | _, t⟩
  · rfl
  · change ((body.attempt >>= _) t).2 = _
    rw [Action.bind_apply, Action.attempt_apply]
    rcases ran : body t with ⟨e | a, u⟩
    · change ((engine.perform (leave (some e)) >>= _) u).2 = (engine (leave (error? (body t).1)) (body t).2).2
      rw [ran]
      change _ = (engine (leave (some e)) u).2
      rw [Action.bind_apply, perform_apply]
      rcases engine (leave (some e)) u with ⟨_ | _, _⟩ <;> rfl
    · change ((engine.perform (leave none) >>= _) u).2 = (engine (leave (error? (body t).1)) (body t).2).2
      rw [ran]
      change _ = (engine (leave none) u).2
      rw [Action.bind_apply, perform_apply]
      rcases engine (leave none) u with ⟨_ | _, _⟩ <;> rfl

section

variable (engine : Engine σ)

theorem watched_of_eq {event : Event} {s : σ × List Entry} {answer : Except Error Cursor} {t : σ}
    (h : engine event s.1 = (answer, t)) :
    watched engine event s = (answer, t, s.2 ++ [(event, answer)]) := by
  rw [watched, h]

theorem adds_block {enter : Event} {leave : Option Error → Event} {body : Action (σ × List Entry) α}
    {P : Option Error → List Entry → Prop} (h : Adds body fun outcome => P (error? outcome)) :
    Adds ((watched engine).block enter leave body) fun _ => Scoped enter leave P := by
  intro s
  rw [state_of_block]
  rcases entered : engine enter s.1 with ⟨e | cursor, t⟩
  · rw [watched_of_eq engine entered]
    exact ⟨_, .refused e, rfl⟩
  · rw [watched_of_eq engine entered]
    obtain ⟨inside, ran, added⟩ := h (t, s.2 ++ [(enter, .ok cursor)])
    dsimp only
    rcases left : engine (leave _) (body (t, s.2 ++ [(enter, .ok cursor)])).2.1 with ⟨answer, u⟩
    rw [watched_of_eq engine left]
    exact ⟨_, .left cursor ran answer, by simp [added]⟩

theorem adds_execute (text : String) (parameters : Option Mapping)
    (read : Cursor → Except Error α) :
    Adds (do read (← watched engine (.execute text parameters)) : Action (σ × List Entry) α)
      fun outcome => Executed text parameters read (error? outcome) := by
  intro s
  rcases executed : engine (.execute text parameters) s.1 with ⟨e | cursor, t⟩
  all_goals
    rw [Action.bind_apply, watched_of_eq engine executed]
    exact ⟨_, ⟨_, rfl, rfl⟩, rfl⟩

theorem adds_executeText (text : String) (values : Value) :
    Adds ((watched engine).executeText text values) fun outcome =>
      ExecutedWith text values (error? outcome) := by
  unfold ExecutedWith executeText
  cases values.toItems with
  | error e => exact fun s => ⟨[], ⟨rfl, rfl⟩, (List.append_nil _).symm⟩
  | ok items => exact adds_execute engine text (some (parameters items)) Cursor.toRows

/-! A transaction. -/

private theorem connection_query {q : Sql.Statement} {s : σ × List Entry} {answer : Except Error Cursor}
    {t : σ} (h : engine (.execute q.text (some (parameters q.values))) s.1 = (answer, t)) :
    (watched engine).connection.query q s =
      ((answer >>= Cursor.toRows).map Reply.ofRows,
        t, s.2 ++ [(.execute q.text (some (parameters q.values)), answer)]) := by
  change ((watched engine (.execute q.text (some (parameters q.values))) >>= fun cursor =>
    (liftM cursor.toRows : Action _ _)) >>= fun rows => pure (Reply.ofRows rows)) s = _
  rw [Action.bind_apply, Action.bind_apply, watched_of_eq engine h]
  cases answer with
  | error e => rfl
  | ok cursor =>
    simp only [Action.lift_apply]
    change _ = (cursor.toRows.map Reply.ofRows, _)
    cases cursor.toRows <;> rfl

theorem adds_step (usage : Usage) :
    Adds (usage.step (watched engine).connection) fun _ => usage.Log := by
  induction usage with
  | done outcome => exact fun s => ⟨[], .done outcome, (List.append_nil _).symm⟩
  | query q next ih =>
    intro s
    rcases executed : engine (.execute q.text (some (parameters q.values))) s.1 with ⟨answer, t⟩
    unfold Usage.step
    beta_reduce
    rw [connection_query engine executed]
    obtain ⟨later, rest, added⟩ := ih _ (t, s.2 ++ [(.execute q.text (some (parameters q.values)), answer)])
    exact ⟨_, .query answer rest, by simp [added]⟩

/-- An event is answered, and fails if the outcome is a failure. -/
def Answered (event : Event) (outcome : Option Raised) (new : List Entry) : Prop :=
  ∃ answer, new = [(event, answer)] ∧ (outcome = none ↔ error? answer = none)

theorem answered_none {event : Event} {new : List Entry} (h : Answered event none new) :
    ∃ cursor, new = [(event, .ok cursor)] := by
  obtain ⟨_ | cursor, rfl, same⟩ := h
  · simp [error?] at same
  · exact ⟨cursor, rfl⟩

theorem answered_some {event : Event} {r : Raised} {new : List Entry} (h : Answered event (some r) new) :
    ∃ e, new = [(event, .error e)] := by
  obtain ⟨e | _, rfl, same⟩ := h
  · exact ⟨e, rfl⟩
  · simp [error?] at same

/-- What a call to the connection of a transaction adds to the log, if it ends like this. -/
def CallLog (steps : List Usage) : Call → Option Raised → List Entry → Prop
  | .start => Answered .start
  | .step i => fun _ new => ∃ usage, steps[i]? = some usage ∧ usage.Log new
  | .commit => Answered .commit
  | .rollback => Answered .rollback
  | .release => Answered .close

theorem adds_perform (event : Event) :
    Adds (fun s => (failure? (((watched engine).perform event).raising s).1,
      (((watched engine).perform event).raising s).2)) (Answered event) := by
  intro s
  rcases made : engine event s.1 with ⟨answer, t⟩
  beta_reduce
  rw [Action.raising_apply, perform_apply, watched_of_eq engine made]
  refine ⟨_, ⟨answer, rfl, ?_⟩, rfl⟩
  cases answer <;> simp [error?, failure?, Except.mapError, Except.map]

theorem adds_call (steps : List Usage) (call : Call) (known : ∀ i, call = .step i → i < steps.length) :
    Adds (call.perform (watched engine).connection (steps.map Usage.step)) (CallLog steps call) := by
  cases call with
  | step i =>
    intro s
    have here : steps[i]? = some (steps.get ⟨i, known i rfl⟩) := List.getElem?_eq_getElem (known i rfl)
    obtain ⟨new, log, added⟩ := adds_step engine (steps.get ⟨i, known i rfl⟩) s
    refine ⟨new, ⟨_, here, log⟩, ?_⟩
    rw [perform_step _ (by rw [List.getElem?_map, here]; rfl)]
    exact added
  | start | commit | rollback | release => exact adds_perform engine _

theorem closed_of_release {steps : List Usage} {o : Call → Option Raised} {parts : List (List Entry)}
    (h : List.Forall₂ (fun call => CallLog steps call (o call)) [.release] parts) :
    ∃ closed, parts.flatten = [(.close, closed)] := by
  obtain ⟨_, _, ⟨closed, rfl, _⟩, rest, rfl⟩ := List.forall₂_cons_left_iff.1 h
  cases rest
  exact ⟨closed, rfl⟩

theorem closed_of_rollback {steps : List Usage} {o : Call → Option Raised} {parts : List (List Entry)}
    (h : List.Forall₂ (fun call => CallLog steps call (o call)) [.rollback, .release] parts) :
    ∃ undone closed, parts.flatten = [(.rollback, undone), (.close, closed)] := by
  obtain ⟨_, later, ⟨undone, rfl, _⟩, last, rfl⟩ := List.forall₂_cons_left_iff.1 h
  obtain ⟨closed, flat⟩ := closed_of_release last
  exact ⟨undone, closed, by rw [List.flatten_cons, flat]; rfl⟩

theorem used_of_calls {steps : List Usage} {o : Call → Option Raised} (started : o .start = none)
    {k : Nat} {rest : List Call} {parts : List (List Entry)}
    (h : List.Forall₂ (fun call => CallLog steps call (o call))
      (.start :: ((List.range' 0 k).map .step ++ rest)) parts) :
    ∃ cursor sent last, List.Forall₂ Usage.Log (steps.take k) sent ∧
      List.Forall₂ (fun call => CallLog steps call (o call)) rest last ∧
      parts.flatten = (.start, .ok cursor) :: sent.flatten ++ last.flatten := by
  obtain ⟨_, later, first, tail, rfl⟩ := List.forall₂_cons_left_iff.1 h
  obtain ⟨cursor, rfl⟩ := answered_none (started ▸ first)
  obtain ⟨sent, last, each, ends, rfl⟩ := parts_of_steps (fun i new => id) tail
  exact ⟨cursor, sent, last, each, ends, by simp⟩

private theorem lent_of_calls {steps : List Usage} {o : Call → Option Raised} {calls : List Call}
    {parts : List (List Entry)} (outline : Outline o steps.length calls)
    (h : List.Forall₂ (fun call => CallLog steps call (o call)) calls parts) (cursor : Cursor) :
    Lent steps ((.connect, .ok cursor) :: parts.flatten) := by
  cases outline with
  | unstarted failed =>
    obtain ⟨_, _, first, last, rfl⟩ := List.forall₂_cons_left_iff.1 h
    obtain ⟨e, rfl⟩ := answered_some (failed ▸ first)
    obtain ⟨closed, flat⟩ := closed_of_release last
    rw [List.flatten_cons, flat]
    exact .unstarted e closed
  | committed started done =>
    obtain ⟨_, sent, _, each, ends, flat⟩ := used_of_calls started h
    obtain ⟨_, _, commit, last, rfl⟩ := List.forall₂_cons_left_iff.1 ends
    obtain ⟨_, rfl⟩ := answered_none (done ▸ commit)
    obtain ⟨closed, flat'⟩ := closed_of_release last
    rw [List.take_length] at each
    rw [flat, List.flatten_cons, flat']
    exact .committed each closed
  | uncommitted started failed =>
    obtain ⟨_, sent, _, each, ends, flat⟩ := used_of_calls started h
    obtain ⟨_, _, commit, last, rfl⟩ := List.forall₂_cons_left_iff.1 ends
    obtain ⟨e, rfl⟩ := answered_some (failed ▸ commit)
    obtain ⟨undone, closed, flat'⟩ := closed_of_rollback last
    rw [List.take_length] at each
    rw [flat, List.flatten_cons, flat']
    exact .uncommitted each e undone closed
  | @undone k _ started =>
    obtain ⟨_, sent, _, each, last, flat⟩ := used_of_calls started h
    obtain ⟨undone, closed, flat'⟩ := closed_of_rollback last
    rw [flat, flat']
    exact .undone k each undone closed

theorem adds_run (steps : List Usage) :
    Adds (Transaction.run (watched engine).pool (steps.map Usage.step)) fun _ => Lent steps := by
  intro s
  by_cases none : steps = []
  · subst none
    exact ⟨[], .idle rfl, (List.append_nil _).symm⟩
  have some : steps.map Usage.step ≠ ([] : List (Step (σ × List Entry))) := by simpa using none
  rcases opened : engine .connect s.1 with ⟨e | cursor, t⟩
  · have refused : (watched engine).pool.acquire s = (.error e, t, s.2 ++ [(.connect, .error e)]) := by
      change ((watched engine).perform .connect >>= _) s = _
      rw [Action.bind_apply, perform_apply, watched_of_eq engine opened]
      rfl
    refine ⟨_, .refused e, ?_⟩
    rw [Transaction.run, if_neg (by simpa using none), refused]
  · have acquired : (watched engine).pool.acquire s =
        (.ok (watched engine).connection, t, s.2 ++ [(.connect, .ok cursor)]) := by
      change ((watched engine).perform .connect >>= _) s = _
      rw [Action.bind_apply, perform_apply, watched_of_eq engine opened]
      rfl
    obtain ⟨runs, _⟩ := run_of_acquire some acquired
    rw [List.length_map] at runs
    obtain ⟨parts, each, logged⟩ := log_of_runs Prod.snd (CallLog steps) runs fun call mem =>
      adds_call engine steps call fun i same => step_of_mem_calls (same ▸ mem)
    exact ⟨_, lent_of_calls (outline_of_calls ..) each cursor, by rw [logged]; simp⟩

private theorem log_of_serve (demand : Demand) (s : σ × List Entry) :
    ∃ new, demand.Log new ∧ (demand.serve (watched engine) s).2 = s.2 ++ new := by
  cases demand with
  | query text values => exact adds_block engine (adds_executeText engine text values) s
  | test => exact adds_block engine (adds_execute engine testText none _) s
  | transaction steps => exact adds_run engine steps s

private theorem log_of_serveAll (demands : List Demand) (s : σ × List Entry) :
    ∃ parts, List.Forall₂ Demand.Log demands parts ∧
      (serveAll (watched engine) demands s).2 = s.2 ++ parts.flatten := by
  induction demands generalizing s with
  | nil => exact ⟨[], .nil, (List.append_nil _).symm⟩
  | cons demand demands ih =>
    obtain ⟨new, log, first⟩ := log_of_serve engine demand s
    obtain ⟨parts, each, later⟩ := ih (demand.serve (watched engine) s)
    refine ⟨new :: parts, .cons log each, ?_⟩
    change (serveAll (watched engine) demands (demand.serve (watched engine) s)).2 = _
    rw [later, first, List.flatten_cons, List.append_assoc]

end

/-! What is held in between. -/

theorem follow_append {h h' : Holding} {log later : List Entry} (first : h.follow log = some h') :
    h.follow (log ++ later) = h'.follow later := by
  rw [Holding.follow, List.foldlM_append]
  change (h.follow log).bind _ = _
  rw [first]
  rfl

theorem follow_usage {usage : Usage} {log : List Entry} (h : usage.Log log) :
    Holding.lent.follow log = some .lent := by
  induction h with
  | done outcome => rfl
  | query answer _ ih => exact ih

theorem follow_usages {steps : List Usage} {sent : List (List Entry)}
    (h : List.Forall₂ Usage.Log steps sent) : Holding.lent.follow sent.flatten = some .lent := by
  induction h with
  | nil => rfl
  | cons first _ ih => rw [List.flatten_cons, follow_append (follow_usage first), ih]

theorem follow_demand {demand : Demand} {log : List Entry} (h : demand.Log log) :
    Holding.nothing.follow log = some .nothing := by
  cases demand with
  | query text values =>
    cases h with
    | refused e => rfl
    | left cursor ran answer =>
      unfold ExecutedWith at ran
      split at ran
      · obtain ⟨_, rfl⟩ := ran
        rfl
      · obtain ⟨_, rfl, _⟩ := ran
        rfl
  | test =>
    cases h with
    | refused e => rfl
    | left cursor ran answer =>
      obtain ⟨_, rfl, _⟩ := ran
      rfl
  | transaction steps =>
    cases h with
    | idle | refused | unstarted => rfl
    | @committed cursor started _ sent each | @uncommitted cursor started sent each
    | @undone cursor started _ sent each =>
      have held : Holding.nothing.follow
          ((.connect, .ok cursor) :: (.start, .ok started) :: sent.flatten) = some .lent :=
        follow_usages each
      rw [follow_append held]
      rfl

theorem follow_demands {demands : List Demand} {parts : List (List Entry)}
    (h : List.Forall₂ Demand.Log demands parts) :
    Holding.nothing.follow parts.flatten = some .nothing := by
  induction h with
  | nil => rfl
  | cons first _ ih => rw [List.flatten_cons, follow_append (follow_demand first), ih]

/-- However an engine answers, of each demand it logs what that demand should, and in the order of the
demands. Nothing is asked of what is not held, one thing is held at a time, and in the end nothing is. -/
theorem leases_balanced (engine : Engine σ) (demands : List Demand) (s : σ) :
    let log := (serveAll (watched engine) demands (s, [])).2
    (∃ parts, List.Forall₂ Demand.Log demands parts ∧ log = parts.flatten) ∧
      Holding.nothing.follow log = some .nothing := by
  obtain ⟨parts, each, logged⟩ := log_of_serveAll engine demands (s, [])
  rw [List.nil_append] at logged
  exact ⟨⟨parts, each, logged⟩, logged ▸ follow_demands each⟩

end RecordMapper.Engine
