import RecordMapper.Proofs.Operation.Sending
import RecordMapper.Proofs.Record.Adopted
import RecordMapper.Session.Basic

/-!
What storing a record leaves alone in a session. What is sent adds records to the store and changes none.
So the records that there are stay what they are, but for the record that is stored, and it stays what
it is, too, if anything fails.
-/
namespace RecordMapper

variable {ω : Type}

namespace Session

def send : Target (Connection Recording) → Sql.Statement → Action (Session ω) Reply
  | .pool _ => pool.query
  | .given c => (lend c).query

def save (r : Record) (options : List (String × Value)) (route : Route (Connection Recording)) :
    Action (Session ω) Reply := do
  let (reply, r) ← Operation.run catalogs send (Operation.save r options route)
  let _ ← change r
  return reply

/-- The second session has the records of the first. -/
structure Keeps (s s' : Session ω) : Prop where
  size : s.store.records.length ≤ s'.store.records.length
  attributes : ∀ n < s.store.records.length, s'.store.attributes n = s.store.attributes n

private theorem keeps_copied (reply : Reply) (s : Session ω) : Keeps s (copied reply s).2 := by
  change Keeps s { s with store := (s.store.copy [reply]).1 }
  refine ⟨?_, fun n low => ?_⟩
  · simp [Store.copy]
  · simp [Store.copy, Store.attributes, List.getElem?_append_left low]

theorem keeps_query (a : Action Recording Reply) (s : Session ω) :
    Keeps s ((a.within recordings >>= copied) s).2 := by
  have apply := Action.within_apply recordings a s
  rcases h : a (recordings.get s) with ⟨e | reply, r⟩
  · rw [h] at apply
    rw [Action.bind_of_error apply]
    exact ⟨Nat.le_refl _, fun _ _ => rfl⟩
  · rw [h] at apply
    rw [Action.bind_of_ok apply]
    have keeps := keeps_copied reply (recordings.set r s)
    exact ⟨keeps.size, keeps.attributes⟩

private theorem keeps_send (t : Target (Connection Recording)) (q : Sql.Statement) (s : Session ω) :
    Keeps s (send t q s).2 := by
  cases t with
  | pool d => exact keeps_query _ s
  | given c => exact keeps_query _ s

private theorem change_eq_ok (r : Record) (s : Session ω) :
    ∃ v s', change r s = (.ok v, s') ∧ ∀ n < s.store.records.length, s'.store.attributes n =
      if r.identity = some n then Store.kept r.attributes.entries else s.store.attributes n := by
  unfold change
  cases identity : r.identity with
  | none => exact ⟨r.toValue, s, rfl, fun n _ => by simp⟩
  | some m =>
    refine ⟨_, { s with store := s.store.change m r.attributes.entries }, rfl, fun n low => ?_⟩
    by_cases same : m = n
    · subst same
      simp [Store.attributes_change_self _ low]
    · rw [Store.attributes_change_of_ne s.store _ (Ne.symm same)]
      simp [same]

/-- What becomes of the records that a session has when one of them is stored: nothing if that fails, and
else nothing but that the one record takes over primary keys from the reply. -/
def Stored (r : Record) (s : Session ω) : Except Error Reply × Session ω → Prop
  | (.error _, s') => ∀ n < s.store.records.length, s'.store.attributes n = s.store.attributes n
  | (.ok reply, s') => ∃ r', r.adoptKeys reply = .ok r' ∧
    ∀ n < s.store.records.length, s'.store.attributes n =
      if r.identity = some n then Store.kept r'.attributes.entries else s.store.attributes n

theorem stored_of_save (r : Record) (options : List (String × Value))
    (route : Route (Connection Recording)) (s : Session ω) :
    Stored r s (save r options route s) := by
  rw [save, Action.bind_apply, Operation.run, Action.bind_apply, Action.within_apply]
  rcases requested : Operation.save r options route (catalogs.get s) with ⟨e | request, c⟩
  · exact fun _ _ => rfl
  have finish : request.finish = fun reply => do return (reply, ← r.adoptKeys reply) := by
    obtain ⟨_, _, _, _, _, _, _, _, _, requests⟩ :=
      Operation.save_eq_ok (congrArg Prod.fst requested)
    exact requests.finish
  dsimp only
  have keeps := keeps_send request.target request.statement (catalogs.set c s)
  rcases sent : send request.target request.statement (catalogs.set c s) with ⟨e | reply, s'⟩
  · rw [sent] at keeps
    rw [Action.bind_of_error sent]
    exact keeps.attributes
  rw [sent] at keeps
  rw [Action.bind_of_ok sent, Action.lift_apply, finish]
  cases adopted : r.adoptKeys reply with
  | error e =>
    simp only [adopted]
    exact keeps.attributes
  | ok r' =>
    obtain ⟨v, after, changed, attributes⟩ := change_eq_ok r' s'
    have identity := (Record.sameBesides_of_adoptKeys adopted).identity
    simp only [adopted]
    change Stored r s ((change r' >>= fun _ => pure reply) s')
    rw [Action.bind_of_ok changed]
    refine ⟨r', adopted, fun n low => ?_⟩
    rw [attributes n (Nat.lt_of_lt_of_le low keeps.size), keeps.attributes n low, identity]
    rfl

end Session

end RecordMapper
