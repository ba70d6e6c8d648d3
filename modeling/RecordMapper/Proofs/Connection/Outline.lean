import Mathlib.Data.List.Forall2
import RecordMapper.Proofs.Connection.Protocol

/-!
The outline of a transaction. However its calls end, they are made in one of four ways; and if it is
known what a call adds to a log, then a run adds this call by call.
-/
namespace RecordMapper.Transaction

variable {σ α π : Type}

theorem reached_eq (o : Call → Option Raised) (first n : Nat) :
    ∃ k ≤ n, reached o first n = (List.range' first k).map .step ∧
      ((∀ i, first ≤ i → i < first + n → o (.step i) = none) → k = n) := by
  induction n generalizing first with
  | zero => exact ⟨0, Nat.le_refl _, rfl, fun _ => rfl⟩
  | succ n ih =>
    rw [reached]
    cases failed : o (.step first) with
    | some r =>
      refine ⟨1, by omega, by simp, fun none => ?_⟩
      rw [none first (Nat.le_refl _) (by omega)] at failed
      cases failed
    | none =>
      obtain ⟨k, le, eq, all⟩ := ih (first + 1)
      refine ⟨k + 1, by omega, by simp [eq, List.range'_succ], fun none => ?_⟩
      rw [all fun i low high => none i (by omega) (by omega)]

/-- The ways in which the calls of a transaction of `n` steps can be made. -/
inductive Outline (o : Call → Option Raised) (n : Nat) : List Call → Prop
  | unstarted {r : Raised} (failed : o .start = some r) : Outline o n [.start, .release]
  | committed (started : o .start = none) (done : o .commit = none) :
    Outline o n (.start :: ((List.range' 0 n).map .step ++ [.commit, .release]))
  | uncommitted {r : Raised} (started : o .start = none) (failed : o .commit = some r) :
    Outline o n (.start :: ((List.range' 0 n).map .step ++ [.commit, .rollback, .release]))
  | undone {k : Nat} (le : k ≤ n) (started : o .start = none) :
    Outline o n (.start :: ((List.range' 0 k).map .step ++ [.rollback, .release]))

theorem outline_of_calls (o : Call → Option Raised) (n : Nat) : Outline o n (calls o n) := by
  rw [calls, inner]
  cases started : o .start with
  | some r => exact .unstarted started
  | none =>
    obtain ⟨k, le, reached, all⟩ := reached_eq o 0 n
    rw [reached, failure, started]
    cases stepped : stepFailure o n with
    | some r => simpa using .undone le started
    | none =>
      obtain rfl : k = n := all fun i _ high =>
        List.findSome?_eq_none_iff.1 stepped i (List.mem_range.2 (by omega))
      cases committed : o .commit with
      | some r => simpa using .uncommitted started committed
      | none => simpa using .committed started committed

theorem step_of_mem_calls {o : Call → Option Raised} {i n : Nat} (h : .step i ∈ calls o n) : i < n := by
  simp only [calls, mem_inner, mem_reached, List.mem_append, List.mem_singleton, reduceCtorEq,
    false_and, or_false, false_or] at h
  obtain ⟨_, j, same, _, high, _⟩ := h
  cases same
  omega

/-- If each call adds to a log what it may add, then a run adds this call by call. -/
theorem log_of_runs {c : Connection σ} {steps : List (Step σ)} {o : Call → Option Raised}
    {calls : List Call} {s t : σ} (log : σ → List α) (adds : Call → Option Raised → List α → Prop)
    (h : Runs c steps o calls s t)
    (each : ∀ call ∈ calls, ∀ s, ∃ new, adds call (call.perform c steps s).1 new ∧
      log (call.perform c steps s).2 = log s ++ new) :
    ∃ parts, List.Forall₂ (fun call => adds call (o call)) calls parts ∧
      log t = log s ++ parts.flatten := by
  induction h with
  | nil s => exact ⟨[], .nil, by simp⟩
  | @cons call calls s t u first rest ih =>
    obtain ⟨new, added, logged⟩ := each call (List.mem_cons_self ..) s
    obtain ⟨parts, all, later⟩ := ih fun call h => each call (List.mem_cons_of_mem _ h)
    rw [first] at added logged
    exact ⟨new :: parts, .cons added all, by rw [later, logged]; simp⟩

/-- What the first steps add, and what the calls behind them do. -/
theorem parts_of_steps {adds : Call → List α → Prop} {sends : π → List α → Prop} {ps : List π}
    (known : ∀ i new, adds (.step i) new → ∃ p, ps[i]? = some p ∧ sends p new)
    {first k : Nat} {rest : List Call} {parts : List (List α)}
    (h : List.Forall₂ adds ((List.range' first k).map .step ++ rest) parts) :
    ∃ sent last, List.Forall₂ sends ((ps.drop first).take k) sent ∧
      List.Forall₂ adds rest last ∧ parts = sent ++ last := by
  induction k generalizing first parts with
  | zero => exact ⟨[], parts, by simp, h, rfl⟩
  | succ k ih =>
    rw [List.range'_succ, List.map_cons, List.cons_append] at h
    obtain ⟨new, later, added, behind, rfl⟩ := List.forall₂_cons_left_iff.1 h
    obtain ⟨p, here, sends⟩ := known first new added
    obtain ⟨sent, last, each, ends, rfl⟩ := ih behind
    refine ⟨new :: sent, last, ?_, ends, rfl⟩
    have front : ps.drop first = p :: ps.drop (first + 1) := by
      obtain ⟨high, rfl⟩ := List.getElem?_eq_some_iff.1 here
      exact List.drop_eq_getElem_cons high
    rw [front, List.take_succ_cons]
    exact .cons sends each

end RecordMapper.Transaction
