import RecordMapper.Connection.Basic

/-!
Transactions. Steps run one after the other on one connection, between its start and its commit.
When a step or the commit fails, the connection is rolled back and the failure passes on. Whatever
happens, a connection that was lent is released once, as the last call to it. A failure that arises
while another one is being handled takes its place and remembers it.
-/
namespace RecordMapper

/-- An error on its way out, with the errors that were being handled when it arose, the latest first. -/
structure Raised where
  error : Error
  contexts : List Error

namespace Raised

def context (r : Raised) : Option Error := r.contexts.head?

def ofError (e : Error) : Raised := ⟨e, e.contexts⟩

def following (outcome : Except Raised Unit) (e : Error) : Raised :=
  match outcome with
  | .ok () => .ofError e
  | .error earlier => ⟨e, e.contexts ++ earlier.error :: earlier.contexts⟩

end Raised

/-- An action whose failure comes with the error that was being handled when it arose. -/
abbrev Raising (σ α : Type) := ExceptT Raised (StateM σ) α

def Action.raising {σ α : Type} (a : Action σ α) : Raising σ α := fun s =>
  match a s with
  | (outcome, s') => (outcome.mapError .ofError, s')

@[simp] theorem Action.raising_apply {σ α : Type} (a : Action σ α) (s : σ) :
    a.raising s = ((a s).1.mapError .ofError, (a s).2) := rfl

instance {σ : Type} : MonadLift (ExceptT Error (StateM σ)) (ExceptT Raised (StateM σ)) :=
  ⟨Action.raising⟩

namespace Transaction

variable {σ : Type}

abbrev Step (σ : Type) := Connection σ → Raising σ Unit

def runSteps (c : Connection σ) : List (Step σ) → Raising σ Unit
  | [] => pure ()
  | step :: steps => do
    step c
    runSteps c steps

def undo (c : Connection σ) (failure : Raised) (s : σ) : Raised × σ :=
  match c.rollback s with
  | (.ok (), s) => (failure, s)
  | (.error e, s) => (.following (.error failure) e, s)

def body (c : Connection σ) (steps : List (Step σ)) (s : σ) : Except Raised Unit × σ :=
  match c.start s with
  | (.error e, s) => (.error (.ofError e), s)
  | (.ok (), s) =>
    match (do runSteps c steps; c.commit : Raising σ Unit) s with
    | (.ok (), s) => (.ok (), s)
    | (.error failure, s) =>
      match undo c failure s with
      | (raised, s) => (.error raised, s)

def giveBack (c : Connection σ) (outcome : Except Raised Unit) (s : σ) : Except Raised Unit × σ :=
  match c.release s with
  | (.ok (), s) => (outcome, s)
  | (.error e, s) => (.error (.following outcome e), s)

/-- Runs steps as one transaction. Without steps no connection is borrowed. -/
def run (pool : Pool σ) (steps : List (Step σ)) (s : σ) : Except Raised Unit × σ :=
  if steps.isEmpty then (.ok (), s)
  else
    match pool.acquire s with
    | (.error e, s) => (.error (.ofError e), s)
    | (.ok c, s) =>
      match body c steps s with
      | (outcome, s) => giveBack c outcome s

@[simp] theorem run_nil (pool : Pool σ) (s : σ) : run pool [] s = (.ok (), s) := rfl

end Transaction

end RecordMapper
