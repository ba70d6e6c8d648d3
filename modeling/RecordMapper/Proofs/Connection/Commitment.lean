import RecordMapper.Proofs.Connection.Protocol

/-!
What an error tells about the commit. Whoever sees a transaction fail may want to run it again, which
does harm if it took effect. It did exactly if all went well up to the release of the connection, and
this failed; so with connections that can be released without fail an error tells that nothing was
committed.
-/
namespace RecordMapper.Transaction

variable {σ : Type}

/-- The commit of a transaction of `n` steps is reached, and does not fail. -/
def Committed (o : Call → Option Raised) (n : Nat) : Prop := .commit ∈ calls o n ∧ o .commit = none

theorem committed_iff_failure {o : Call → Option Raised} {n : Nat} :
    Committed o n ↔ failure o n = none := by
  have reached : .commit ∈ calls o n ↔ o .start = none ∧ stepFailure o n = none := by
    simp [calls, mem_inner, mem_reached]
  rw [Committed, reached, failure, Option.or_eq_none_iff, Option.or_eq_none_iff, and_assoc]

private theorem raised_of_committed {o : Call → Option Raised} {n : Nat} (h : Committed o n) :
    raised o n = o .release := by
  have unfailed := committed_iff_failure.1 h
  have kept : .rollback ∉ calls o n := by
    simp [calls, rollback_mem_inner, unfailed]
  rw [raised, unfailed, if_neg kept]
  cases o .release <;> rfl

theorem committed_iff_of_raised {o : Call → Option Raised} {n : Nat} {r : Raised}
    (h : raised o n = some r) :
    Committed o n ↔ (∀ call ∈ inner o n, o call = none) ∧ o .release = some r := by
  constructor
  · intro committed
    have unfailed := committed_iff_failure.1 committed
    exact ⟨failure_eq_none.1 unfailed, (raised_of_committed committed).symm.trans h⟩
  · rintro ⟨unfailed, _⟩
    exact committed_iff_failure.2 (failure_eq_none.2 unfailed)

/-- A transaction that fails was refused a connection, and then no call was made, or it made the calls
of the protocol to one. Its commit went through exactly if all calls before the release did and the
error is the one of the release. -/
theorem committed_of_raised {pool : Pool σ} {steps : List (Step σ)} {s t : σ} {r : Raised}
    (h : run pool steps s = (.error r, t)) :
    match pool.acquire s with
    | (.error e, s') => r = .ofError e ∧ t = s'
    | (.ok c, s') =>
      ∃ o : Call → Option Raised, Runs c steps o (calls o steps.length) s' t ∧
        (Committed o steps.length ↔
          (∀ call ∈ inner o steps.length, o call = none) ∧ o .release = some r) ∧
        ((∀ u, (c.release u).1 = .ok ()) → ¬ Committed o steps.length) := by
  have nonempty : steps ≠ [] := by
    rintro rfl
    cases h
  rcases acquired : pool.acquire s with ⟨e | c, s'⟩
  · rw [run, if_neg (by simpa using nonempty), acquired] at h
    cases h
    exact ⟨rfl, rfl⟩
  · obtain ⟨runs, outcome⟩ := run_of_acquire nonempty acquired
    rw [h] at runs outcome
    have committed := committed_iff_of_raised outcome.symm
    refine ⟨observed c steps s', runs, committed, fun reliable took => ?_⟩
    -- The release is looked at in the state that the body leaves, where it does not fail either.
    have failed := (committed.1 took).2
    simp only [observed, Call.perform, Action.raising_apply, reliable] at failed
    cases failed

def lost : Error := .outside .connection "lost"

def losing (call : ConnectionEvent) : Script := { connectionFailures := [(call, lost)] }

def lostRun (call : ConnectionEvent) : Except Raised Unit × Recording :=
  run Recording.pool [fun _ => pure ()] { script := losing call }

def lent (call : ConnectionEvent) : Recording :=
  { script := losing call, events := [.acquire], queries := [[]] }

theorem committed_of_raised_lost :
    let after := (lostRun .commit).2
    lostRun .commit = (.error ⟨lost, []⟩, after) ∧
      after.events = [.acquire, .start, .commit, .rollback, .release] ∧
      ∃ o, Runs (Recording.connection 0 (losing .commit)) [fun _ => pure ()] o (calls o 1)
        (lent .commit) after ∧ ¬ Committed o 1 := by
  intro after
  have failed : lostRun .commit = (.error ⟨lost, []⟩, after) := rfl
  obtain ⟨o, runs, _, uncommitted⟩ := committed_of_raised failed
  exact ⟨failed, rfl, o, runs, uncommitted fun _ => rfl⟩

/-- A connection that is lost when it is released makes a transaction fail that was committed. -/
theorem committed_yet_raised :
    let after := (lostRun .release).2
    let o : Call → Option Raised := fun call => if call = .release then some ⟨lost, []⟩ else none
    lostRun .release = (.error ⟨lost, []⟩, after) ∧
      after.events = [.acquire, .start, .commit, .release] ∧
      Runs (Recording.connection 0 (losing .release)) [fun _ => pure ()] o (calls o 1)
        (lent .release) after ∧ Committed o 1 := by
  intro after o
  have made : calls o 1 = [.start, .step 0, .commit, .release] := rfl
  refine ⟨rfl, rfl, ?_, committed_iff_failure.2 rfl⟩
  rw [made]
  exact .cons rfl (.cons rfl (.cons rfl (.cons rfl (.nil _))))

end RecordMapper.Transaction
