import RecordMapper.Connection.Recording
import RecordMapper.Connection.Transaction

/-!
The protocol of a transaction. Which calls are made to the connection, and which error comes out of
them, is told from the failures of the calls alone: this is what the protocol asks for, and it is
what a run does.
-/
namespace RecordMapper.Transaction

variable {σ : Type}

/-- A call to the connection that a transaction has borrowed. Steps are counted from zero. -/
inductive Call
  | start
  | step (number : Nat)
  | commit
  | rollback
  | release
deriving DecidableEq

def failure? : Except Raised Unit → Option Raised
  | .ok () => none
  | .error r => some r

/-- A call is carried out: whether it fails, and the state behind it. -/
def Call.perform (c : Connection σ) (steps : List (Step σ)) (call : Call) (s : σ) :
    Option Raised × σ :=
  let action : Raising σ Unit := match call with
    | start => c.start.raising
    | step i => (steps[i]?.getD fun _ => pure ()) c
    | commit => c.commit.raising
    | rollback => c.rollback.raising
    | release => c.release.raising
  (failure? (action s).1, (action s).2)

/-- Calls are carried out one after the other, each with the outcome that is told of it. -/
inductive Runs (c : Connection σ) (steps : List (Step σ)) (o : Call → Option Raised) :
    List Call → σ → σ → Prop
  | nil (s : σ) : Runs c steps o [] s s
  | cons {call : Call} {calls : List Call} {s t u : σ} (first : call.perform c steps s = (o call, t))
      (rest : Runs c steps o calls t u) : Runs c steps o (call :: calls) s u

/-! What the protocol asks for, if `o` tells which calls fail. -/

def reached (o : Call → Option Raised) (first : Nat) : Nat → List Call
  | 0 => []
  | n + 1 => .step first :: if (o (.step first)).isSome then [] else reached o (first + 1) n

def stepFailure (o : Call → Option Raised) (n : Nat) : Option Raised :=
  (List.range n).findSome? fun i => o (.step i)

/-- What makes a transaction fail: its start, the first step that fails, or the commit. -/
def failure (o : Call → Option Raised) (n : Nat) : Option Raised :=
  (o .start).or ((stepFailure o n).or (o .commit))

/-- The calls of a transaction of `n` steps before the last one. -/
def inner (o : Call → Option Raised) (n : Nat) : List Call :=
  .start ::
    if (o .start).isSome then []
    else
      reached o 0 n ++ (if (stepFailure o n).isSome then [] else [.commit]) ++
        if (failure o n).isSome then [.rollback] else []

def calls (o : Call → Option Raised) (n : Nat) : List Call := inner o n ++ [.release]

/-- An error that arises while another one may be in flight takes its place and carries it. -/
def atop : Option Raised → Option Raised → Option Raised
  | none, inFlight => inFlight
  | some r, none => some r
  | some r, some inFlight => some ⟨r.error, r.contexts ++ inFlight.error :: inFlight.contexts⟩

/-- The error that comes out of a transaction of `n` steps. -/
def raised (o : Call → Option Raised) (n : Nat) : Option Raised :=
  atop (o .release) (atop (if .rollback ∈ calls o n then o .rollback else none) (failure o n))

theorem mem_reached {o : Call → Option Raised} {k n : Nat} {call : Call} :
    call ∈ reached o k n ↔
      ∃ i, call = .step i ∧ k ≤ i ∧ i < k + n ∧ ∀ j, k ≤ j → j < i → o (.step j) = none := by
  induction n generalizing k with
  | zero =>
    constructor
    · intro h; cases h
    · rintro ⟨i, _, low, high, _⟩; omega
  | succ n ih =>
    rw [reached, List.mem_cons]
    constructor
    · rintro (rfl | h)
      · exact ⟨k, rfl, Nat.le_refl _, by omega, fun j low high => by omega⟩
      · cases first : o (.step k) with
        | some r => simp [first] at h
        | none =>
          simp only [first, Option.isSome_none, Bool.false_eq_true, if_false, ih] at h
          obtain ⟨i, rfl, low, high, earlier⟩ := h
          refine ⟨i, rfl, by omega, by omega, fun j low' high' => ?_⟩
          rcases Nat.eq_or_lt_of_le low' with rfl | low'
          · exact first
          · exact earlier j low' high'
    · rintro ⟨i, rfl, low, high, earlier⟩
      rcases Nat.eq_or_lt_of_le low with rfl | low
      · exact .inl rfl
      · right
        rw [earlier k (Nat.le_refl _) low]
        exact ih.2 ⟨i, rfl, low, by omega, fun j low' => earlier j (by omega)⟩

private theorem nodup_reached (o : Call → Option Raised) (k n : Nat) : (reached o k n).Nodup := by
  induction n generalizing k with
  | zero => exact .nil
  | succ n ih =>
    rw [reached, List.nodup_cons]
    split
    · exact ⟨List.not_mem_nil, .nil⟩
    · refine ⟨fun h => ?_, ih (k + 1)⟩
      obtain ⟨i, same, low, _⟩ := mem_reached.1 h
      cases same
      omega

theorem stepFailure_eq_none {o : Call → Option Raised} {n : Nat} :
    stepFailure o n = none ↔ ∀ call ∈ reached o 0 n, o call = none := by
  rw [stepFailure, List.findSome?_eq_none_iff]
  constructor
  · intro h call mem
    obtain ⟨i, rfl, _, high, _⟩ := mem_reached.1 mem
    exact h i (List.mem_range.2 (by omega))
  · intro h i
    -- Every step before this one has been reached and has not failed, so this one is reached too.
    induction i using Nat.strongRecOn with
    | _ i ih =>
      intro mem
      have high := List.mem_range.1 mem
      refine h _ (mem_reached.2 ⟨i, rfl, by omega, by omega, fun j _ lower => ?_⟩)
      exact ih j lower (List.mem_range.2 (by omega))

theorem mem_inner {o : Call → Option Raised} {n : Nat} {call : Call} :
    call ∈ inner o n ↔ call = .start ∨ o .start = none ∧
      (call ∈ reached o 0 n ∨ (call = .commit ∧ stepFailure o n = none) ∨
        (call = .rollback ∧ (failure o n).isSome)) := by
  rw [inner, List.mem_cons]
  cases o .start with
  | some r => simp
  | none =>
    simp only [Option.isSome_none, Bool.false_eq_true, if_false, List.mem_append, true_and, or_assoc]
    cases stepFailure o n <;> cases failure o n <;> simp

theorem rollback_mem_inner {o : Call → Option Raised} {n : Nat} :
    .rollback ∈ inner o n ↔ o .start = none ∧ (failure o n).isSome := by
  simp [mem_inner, mem_reached]

private theorem nodup_calls (o : Call → Option Raised) (n : Nat) : (calls o n).Nodup := by
  have steps : ∀ call ∈ reached o 0 n, call ≠ .start ∧ call ≠ .commit ∧ call ≠ .rollback := by
    intro call mem
    obtain ⟨i, rfl, _⟩ := mem_reached.1 mem
    simp
  have different := nodup_reached o 0 n
  have noRelease : Call.release ∉ inner o n := by simp [mem_inner, mem_reached]
  have nodup : (inner o n).Nodup := by
    rw [inner]
    cases o .start with
    | some r => simp
    | none => cases stepFailure o n <;> cases failure o n <;> grind
  rw [calls, List.nodup_append]
  refine ⟨nodup, List.pairwise_singleton _ _, fun call mem last same => ?_⟩
  rw [List.mem_singleton] at same
  exact fun h => noRelease (same ▸ h ▸ mem)

private theorem atop_eq_none {r inFlight : Option Raised} :
    atop r inFlight = none ↔ r = none ∧ inFlight = none := by
  cases r <;> cases inFlight <;> simp [atop]

theorem failure_eq_none {o : Call → Option Raised} {n : Nat} :
    failure o n = none ↔ ∀ call ∈ inner o n, o call = none := by
  constructor
  · intro unfailed call mem
    obtain ⟨started, stepped, committed⟩ : o .start = none ∧ stepFailure o n = none ∧ o .commit = none := by
      simpa [failure] using unfailed
    rcases mem_inner.1 mem with rfl | ⟨_, mem | ⟨rfl, _⟩ | ⟨rfl, failed⟩⟩
    · exact started
    · exact stepFailure_eq_none.1 stepped call mem
    · exact committed
    · rw [unfailed] at failed
      cases failed
  · intro h
    have started : o .start = none := h _ (mem_inner.2 (.inl rfl))
    have stepped : stepFailure o n = none := stepFailure_eq_none.2 fun call mem =>
      h call (mem_inner.2 (.inr ⟨started, .inl mem⟩))
    have committed : o .commit = none :=
      h _ (mem_inner.2 (.inr ⟨started, .inr (.inl ⟨rfl, stepped⟩)⟩))
    rw [failure, started, stepped, committed]
    rfl

private theorem raised_eq_none {o : Call → Option Raised} {n : Nat} :
    raised o n = none ↔ ∀ call ∈ calls o n, o call = none := by
  simp only [raised, calls, atop_eq_none, List.mem_append, List.mem_singleton, reduceCtorEq, or_false,
    or_imp, forall_and, forall_eq, ← failure_eq_none]
  constructor
  · rintro ⟨released, _, unfailed⟩
    exact ⟨unfailed, released⟩
  · rintro ⟨unfailed, released⟩
    refine ⟨released, if_neg ?_, unfailed⟩
    rw [rollback_mem_inner, unfailed]
    simp

/-! What a run does. -/

theorem eq_ok_of_failure? {p : Except Raised Unit × σ} (h : failure? p.1 = none) :
    p = (.ok (), p.2) := by
  obtain ⟨x, t⟩ := p
  cases x with
  | ok u => rfl
  | error r => cases h

theorem eq_error_of_failure? {p : Except Raised Unit × σ} {r : Raised} (h : failure? p.1 = some r) :
    p = (.error r, p.2) := by
  obtain ⟨x, t⟩ := p
  cases x with
  | ok u => cases h
  | error r' =>
    cases h
    rfl

theorem then_of_none {a b : Raising σ Unit} {s : σ} (h : failure? (a s).1 = none) :
    (do a; b : Raising σ Unit) s = b (a s).2 := by
  simp only [bind, ExceptT.bind, ExceptT.mk, StateT.bind]
  rw [eq_ok_of_failure? h]
  rfl

theorem then_of_some {a b : Raising σ Unit} {s : σ} {r : Raised} (h : failure? (a s).1 = some r) :
    (do a; b : Raising σ Unit) s = (.error r, (a s).2) := by
  simp only [bind, ExceptT.bind, ExceptT.mk, StateT.bind]
  rw [eq_error_of_failure? h]
  rfl

theorem Runs.append {c : Connection σ} {steps : List (Step σ)} {o : Call → Option Raised}
    {first later : List Call} {s t u : σ} (h : Runs c steps o first s t)
    (h' : Runs c steps o later t u) : Runs c steps o (first ++ later) s u := by
  induction h with
  | nil s => exact h'
  | cons call _ ih => exact .cons call (ih h')

theorem Runs.single {c : Connection σ} {steps : List (Step σ)} {o : Call → Option Raised}
    {call : Call} {s t : σ} (h : call.perform c steps s = (o call, t)) :
    Runs c steps o [call] s t := .cons h (.nil t)

section

variable (c : Connection σ) (steps : List (Step σ))

def before (s : σ) : Nat → σ
  | 0 => s
  | i + 1 => ((Call.step i).perform c steps (before s i)).2

theorem perform_step {steps : List (Step σ)} {k : Nat} {step : Step σ} (h : steps[k]? = some step)
    (s : σ) : (Call.step k).perform c steps s = (failure? (step c s).1, (step c s).2) := by
  simp only [Call.perform, h]
  rfl

/-- Steps run up to the first one that fails, and its error comes out. -/
theorem runSteps_reached {o : Call → Option Raised} {s : σ}
    (seen : ∀ i, o (.step i) = ((Call.step i).perform c steps (before c steps s i)).1)
    {rest : List (Step σ)} {k : Nat} (h : steps.drop k = rest) :
    Runs c steps o (reached o k rest.length) (before c steps s k)
        (runSteps c rest (before c steps s k)).2 ∧
      failure? (runSteps c rest (before c steps s k)).1 =
        (List.range' k rest.length).findSome? fun i => o (.step i) := by
  induction rest generalizing k with
  | nil => exact ⟨.nil _, rfl⟩
  | cons step rest ih =>
    have here : steps[k]? = some step := by rw [← List.head?_drop, h]; rfl
    have later : steps.drop (k + 1) = rest := by rw [← List.tail_drop, h]; rfl
    have call : (Call.step k).perform c steps (before c steps s k) =
        (o (.step k), before c steps s (k + 1)) := by rw [seen]; rfl
    obtain ⟨outcome, after⟩ := Prod.mk.injEq .. ▸ (perform_step c here _).symm.trans call
    rw [List.length_cons, reached, List.range'_succ, List.findSome?_cons]
    change Runs _ _ _ _ _ ((do step c; runSteps c rest : Raising σ Unit) _).2 ∧
      failure? ((do step c; runSteps c rest : Raising σ Unit) _).1 = _
    cases failed : o (.step k) with
    | none =>
      rw [then_of_none (outcome.trans failed), after]
      exact ⟨.cons call (ih later).1, (ih later).2⟩
    | some r =>
      rw [then_of_some (outcome.trans failed), after]
      exact ⟨.single call, rfl⟩

def tried : Raising σ Unit := do runSteps c steps; c.commit

/-- How the calls of a run end, each at the time when the run makes it. -/
def observed (s : σ) : Call → Option Raised
  | .start => (Call.start.perform c steps s).1
  | .step i => ((Call.step i).perform c steps (before c steps (c.start s).2 i)).1
  | .commit => (Call.commit.perform c steps (runSteps c steps (c.start s).2).2).1
  | .rollback => (Call.rollback.perform c steps (tried c steps (c.start s).2).2).1
  | .release => (Call.release.perform c steps (body c steps s).2).1

private theorem tried_calls (s : σ) :
    let o := observed c steps s
    Runs c steps o
        (reached o 0 steps.length ++ if (stepFailure o steps.length).isSome then [] else [.commit])
        (c.start s).2 (tried c steps (c.start s).2).2 ∧
      failure? (tried c steps (c.start s).2).1 = (stepFailure o steps.length).or (o .commit) := by
  intro o
  obtain ⟨runs, failed⟩ := runSteps_reached c steps (o := o) (fun i => rfl) (List.drop_zero ..)
  rw [before] at runs failed
  rw [← List.range_eq_range'] at failed
  change _ = stepFailure o steps.length at failed
  unfold tried
  cases found : stepFailure o steps.length with
  | none =>
    rw [then_of_none (failed.trans found)]
    exact ⟨runs.append (.single rfl), rfl⟩
  | some r =>
    rw [then_of_some (failed.trans found)]
    exact ⟨runs.append (.nil _), rfl⟩

private theorem undo_eq (r : Raised) (s : σ) :
    some (undo c r s).1 = atop (Call.rollback.perform c steps s).1 (some r) ∧
      (undo c r s).2 = (Call.rollback.perform c steps s).2 := by
  rcases made : c.rollback s with ⟨_ | _, t⟩ <;> simp [undo, Call.perform, made] <;> rfl

private theorem giveBack_eq (outcome : Except Raised Unit) (s : σ) :
    failure? (giveBack c outcome s).1 = atop (Call.release.perform c steps s).1 (failure? outcome) ∧
      (giveBack c outcome s).2 = (Call.release.perform c steps s).2 := by
  rcases made : c.release s with ⟨_ | _, t⟩ <;> cases outcome <;>
    simp [giveBack, Call.perform, made] <;> rfl

theorem body_of_failed_start {s : σ} {r : Raised} (h : (Call.start.perform c steps s).1 = some r) :
    body c steps s = (.error r, (c.start s).2) := by
  unfold body
  simp only [Call.perform, Action.raising_apply] at h
  rcases made : c.start s with ⟨e | u, t⟩
  · rw [made] at h
    cases h
    rfl
  · rw [made] at h
    cases h

theorem start_of_success {s : σ} (h : (Call.start.perform c steps s).1 = none) :
    c.start s = (.ok (), (c.start s).2) := by
  simp only [Call.perform, Action.raising_apply] at h
  rcases made : c.start s with ⟨e | u, t⟩
  · rw [made] at h
    cases h
  · rfl

theorem body_of_done {s : σ} (h : (Call.start.perform c steps s).1 = none)
    (done : failure? (tried c steps (c.start s).2).1 = none) :
    body c steps s = (.ok (), (tried c steps (c.start s).2).2) := by
  have ran := eq_ok_of_failure? done
  unfold tried at *
  rw [body, start_of_success c steps h]
  simp only
  rw [ran]

theorem body_of_failed {s : σ} {r : Raised} (h : (Call.start.perform c steps s).1 = none)
    (failed : failure? (tried c steps (c.start s).2).1 = some r) :
    body c steps s = (.error (undo c r (tried c steps (c.start s).2).2).1,
      (undo c r (tried c steps (c.start s).2).2).2) := by
  have ran := eq_error_of_failure? failed
  unfold tried at *
  rw [body, start_of_success c steps h]
  simp only
  rw [ran]

theorem body_calls (s : σ) :
    let o := observed c steps s
    Runs c steps o (inner o steps.length) s (body c steps s).2 ∧
      failure? (body c steps s).1 =
        atop (if .rollback ∈ inner o steps.length then o .rollback else none)
          (failure o steps.length) := by
  intro o
  obtain ⟨runs, failed⟩ := tried_calls c steps s
  change Runs c steps o _ _ _ at runs
  change _ = (stepFailure o steps.length).or (o .commit) at failed
  have first : Call.start.perform c steps s = (o .start, (c.start s).2) := rfl
  have start : (Call.start.perform c steps s).1 = o .start := rfl
  simp only [rollback_mem_inner]
  rw [inner, failure]
  cases started : o .start with
  | some r =>
    rw [body_of_failed_start c steps (start.trans started)]
    exact ⟨.single first, rfl⟩
  | none =>
    cases outcome : (stepFailure o steps.length).or (o .commit) with
    | none =>
      rw [body_of_done c steps (start.trans started) (failed.trans outcome)]
      simp only [Option.none_or, Option.isSome_none, Bool.false_eq_true, if_false, List.append_nil]
      exact ⟨.cons first runs, rfl⟩
    | some r =>
      rw [body_of_failed c steps (start.trans started) (failed.trans outcome)]
      obtain ⟨raised, after⟩ := undo_eq c steps r (tried c steps (c.start s).2).2
      have undone : Call.rollback.perform c steps (tried c steps (c.start s).2).2 =
          (o .rollback, (undo c r (tried c steps (c.start s).2).2).2) := Prod.ext rfl after.symm
      exact ⟨.cons first (runs.append (.single undone)), raised⟩

end

/-- A run on a borrowed connection makes the calls of the protocol and ends as it says. -/
theorem run_of_acquire {pool : Pool σ} {steps : List (Step σ)} {s t : σ} {c : Connection σ}
    (nonempty : steps ≠ []) (h : pool.acquire s = (.ok c, t)) :
    let o := observed c steps t
    Runs c steps o (calls o steps.length) t (run pool steps s).2 ∧
      failure? (run pool steps s).1 = raised o steps.length := by
  intro o
  obtain ⟨runs, outcome⟩ := body_calls c steps t
  change Runs c steps o _ _ _ at runs
  change _ = atop (if _ ∈ inner o _ then o .rollback else none) (failure o _) at outcome
  have ended : run pool steps s = giveBack c (body c steps t).1 (body c steps t).2 := by
    rw [run, if_neg (by simpa using nonempty), h]
  obtain ⟨last, after⟩ := giveBack_eq c steps (body c steps t).1 (body c steps t).2
  have released : Call.release.perform c steps (body c steps t).2 =
      (o .release, (run pool steps s).2) := Prod.ext rfl (ended ▸ after.symm)
  refine ⟨runs.append (.single released), ?_⟩
  rw [ended, last, outcome, raised, calls]
  simp only [List.mem_append, List.mem_singleton, reduceCtorEq, or_false]
  rfl

/-- Without steps nothing is called. Else a connection is borrowed, and unless that fails, the calls of
the protocol are made to it, each at most once and the release last; the error that comes out is the
one of the protocol, and there is none exactly if no call fails. -/
theorem run_protocol (pool : Pool σ) (s : σ) :
    run pool [] s = (.ok (), s) ∧
    ∀ (first : Step σ) (rest : List (Step σ)),
      match pool.acquire s with
      | (.error e, t) => run pool (first :: rest) s = (.error (.ofError e), t)
      | (.ok c, t) =>
        ∃ o : Call → Option Raised,
          Runs c (first :: rest) o (calls o (rest.length + 1)) t (run pool (first :: rest) s).2 ∧
          (calls o (rest.length + 1)).Nodup ∧
          (calls o (rest.length + 1)).getLast? = some .release ∧
          failure? (run pool (first :: rest) s).1 = raised o (rest.length + 1) ∧
          (failure? (run pool (first :: rest) s).1 = none ↔
            ∀ call ∈ calls o (rest.length + 1), o call = none) := by
  refine ⟨rfl, fun first rest => ?_⟩
  rcases h : pool.acquire s with ⟨e | c, t⟩
  · rw [run, h]
    rfl
  · obtain ⟨runs, outcome⟩ := run_of_acquire (List.cons_ne_nil first rest) h
    refine ⟨observed c (first :: rest) t, runs, nodup_calls _ _, List.getLast?_concat .., outcome, ?_⟩
    rw [outcome]
    exact raised_eq_none

example :
    let lost := Error.outside .connection "lost"
    let stop := Error.outside .abort "stop"
    let script : Script := { connectionFailures := [(.commit, lost), (.rollback, stop)] }
    let (outcome, after) := run Recording.pool [fun _ => pure ()] { script }
    outcome = .error ⟨stop, [lost]⟩ ∧
      after.events = [.acquire, .start, .commit, .rollback, .release] := ⟨rfl, rfl⟩

end RecordMapper.Transaction
