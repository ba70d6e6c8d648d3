import Mathlib.Data.List.Induction
import RecordMapper.Proofs.Except
import RecordMapper.Proofs.Profile.Coverage
import RecordMapper.Proofs.Text.Trim

/-!
The profile lock over time. Each directory has a lock of its own, and what is read back there is the name
that was stored last in this directory, unless the lock was cleared since. Only storing a name, clearing the
lock and a check of a connection that succeeds change a lock, and only that of the working directory. A name
that cannot be encoded fails to be stored after the lock was emptied, so nothing is read back.
-/
namespace RecordMapper.Workspace

def lockOf (d : Path) : Path := d ++ [lockFile]

def seenFrom (w : Workspace) (d : Path) : Workspace := { w with current := d }

/-- What is in a lock after a name was stored. -/
def storedText (ns : List Nat) : String := (Text.ofCodePoints? ns).getD ""

def readBack (text : String) : Option String :=
  lockedName (String.ofList (Text.unifyLineEnds text.toList))

section

variable {w : Workspace}

theorem lockOf_ne_nil (d : Path) : lockOf d ≠ [] := by simp [lockOf]

theorem lockOf_ne_self (d : Path) : lockOf d ≠ d := by simp [lockOf]

private theorem lockOf_inj {d d' : Path} : lockOf d = lockOf d' ↔ d = d' := List.append_left_inj _

theorem node?_of_ne_nil {p : Path} (h : p ≠ []) : w.node? p = w.nodes.get? p := by
  rw [node?, if_neg (by simpa using h)]

private theorem node?_of_changed (w : Workspace) {p : Path} (h : p ≠ []) {nodes : OrderedMap Path Node}
    {n : Option Node} (changed : ∀ q, nodes.get? q = if p == q then n else w.nodes.get? q) (q : Path) :
    { w with nodes }.node? q = if p = q then n else w.node? q := by
  by_cases root : q = []
  · subst root
    rw [if_neg h]
    rfl
  · rw [node?_of_ne_nil root, node?_of_ne_nil root, changed]
    simp

theorem node?_insert (w : Workspace) {p : Path} (h : p ≠ []) (n : Node) (q : Path) :
    { w with nodes := w.nodes.insert p n }.node? q = if p = q then some n else w.node? q :=
  w.node?_of_changed h (fun q => OrderedMap.get?_insert w.nodes p q n) q

theorem node?_erase (w : Workspace) {p : Path} (h : p ≠ []) (q : Path) :
    { w with nodes := w.nodes.erase p }.node? q = if p = q then none else w.node? q :=
  w.node?_of_changed h (OrderedMap.get?_erase w.nodes p) q

theorem locate_lockFile (h : w.node? w.current = some .directory) :
    w.locate lockFile = .ok (lockOf w.current) := by
  have names : (lockFile.splitOn "/").filter (· != "") = [lockFile] := by
    simp +decide [lockFile, String.splitOn, String.splitOnAux]
  have relative : lockFile.startsWith "/" = false := by decide +kernel
  have followed : w.follow w.current lockFile = .ok (lockOf w.current) := by
    rw [follow, h]
    rfl
  rw [locate, names, relative, if_neg (by decide), if_neg (by decide), if_neg (by decide)]
  simp only [List.foldlM_cons, List.foldlM_nil, Bool.false_eq_true, if_false, followed]
  rfl

theorem resolve_lockFile (h : w.node? w.current = some .directory) :
    w.resolve lockFile = .ok (lockOf w.current) := by
  rw [resolve, locate_lockFile h]
  rfl

theorem write_lockFile (h : w.node? w.current = some .directory) {kept : Option String}
    (lock : w.node? (lockOf w.current) = kept.map .file) (text : String) :
    w.write lockFile text = .ok { w with nodes := w.nodes.insert (lockOf w.current) (.file text) } := by
  rw [write, resolve_lockFile h, ok_bind, lock]
  cases kept <;> rfl

/-- The lock is emptied first, so that it is empty if the name cannot be encoded. -/
theorem storeLock_of_kept (h : w.node? w.current = some .directory) {kept : Option String}
    (lock : w.node? (lockOf w.current) = kept.map .file) (ns : List Nat) :
    storeLock ns w = ((Text.ofCodePoints? ns).elim (.error .unencodable) fun _ => .ok ⟨⟩,
      { w with nodes := w.nodes.insert (lockOf w.current) (.file (storedText ns)) }) := by
  let emptied : Workspace := { w with nodes := w.nodes.insert (lockOf w.current) (.file "") }
  have start : w.write lockFile "" = .ok emptied := write_lockFile h lock ""
  rw [storeLock, writePoints, Action.bind_apply]
  simp only [Action.get_apply, start]
  cases stored : Text.ofCodePoints? ns with
  | none =>
    rw [storedText, stored]
    rfl
  | some text =>
    have here : emptied.node? emptied.current = some .directory := by
      rw [node?_insert w (lockOf_ne_nil _), if_neg (lockOf_ne_self _), h]
    have empty : emptied.node? (lockOf emptied.current) = (some "").map .file := by
      rw [node?_insert w (lockOf_ne_nil _), if_pos rfl]
      rfl
    have finish : emptied.write lockFile text =
        .ok { w with nodes := w.nodes.insert (lockOf w.current) (.file text) } := by
      rw [write_lockFile here empty, OrderedMap.insert_insert _ _ _ (beq_self_eq_true _)]
    rw [storedText, stored]
    simp only [Action.bind_apply, Action.lift_apply, Action.set_apply, Action.get_apply, finish]
    rfl

theorem clearLock_of_kept (h : w.node? w.current = some .directory) {kept : Option String}
    (lock : w.node? (lockOf w.current) = kept.map .file) :
    w.clearLock = .ok { w with nodes := w.nodes.erase (lockOf w.current) } := by
  rw [clearLock, remove, resolve_lockFile h, ok_bind, lock]
  cases kept <;> rfl

end

/-! What is done to locks. -/

/-- A change of other things: it leaves the working directory, directories and locks as they are. -/
structure Unrelated where
  change : Workspace → Workspace
  current : ∀ w, (change w).current = w.current
  directories : ∀ w p, w.node? p = some .directory → (change w).node? p = some .directory
  locks : ∀ w d, (change w).node? (lockOf d) = w.node? (lockOf d)

inductive LockEvent
  | store (name : List Nat)
  | clear
  | read
  | activeName (variablePrefix : List Nat)
  | engine (name : Option (List Nat)) (url : Option String) (variablePrefix : List Nat) (path : Option String)
  | connect (rows : Except Error (List (String × String))) (expected : Except Error Columns)
      (profileName : Option (List Nat)) (lock : Bool)
  | changeDirectory (path : String)
  | other (what : Unrelated)

/-- A check of a connection succeeds if the columns can be read and nothing that is declared is missing. -/
def checks (rows : Except Error (List (String × String))) (expected : Except Error Columns) : Bool :=
  match rows, expected with
  | .ok rows, .ok expected => (DriftReport.compare (Introspection.columns rows) expected).valid
  | _, _ => false

namespace LockEvent

def ask {α : Type} (question : Workspace → Except Error α) : Action Workspace Unit := do
  let _ ← question (← get)

def wholly (change : Workspace → Except Error Workspace) : Action Workspace Unit := do
  set (← change (← get))

def perform : LockEvent → Action Workspace Unit
  | store ns => storeLock ns
  | clear => wholly clearLock
  | read => ask readLock
  | activeName start => ask (·.activeName start)
  | engine name url start path => ask (·.engine name url start path)
  | connect rows expected profileName lock => do let _ ← check rows expected profileName lock
  | changeDirectory path => wholly (·.changeDirectory path)
  | other what => modify what.change

/-- What an event leaves behind, whether it fails or not. -/
def after (e : LockEvent) (w : Workspace) : Workspace := (e.perform w).2

/-- The text that an event leaves in the lock of the working directory, or that there is no lock any more, if
it does anything to the lock. -/
def leaves? : LockEvent → Option (Option String)
  | store ns => some (some (storedText ns))
  | clear => some none
  | connect rows expected profileName lock =>
    if lock && checks rows expected then (profileName.filter (· != [])).map (some ∘ storedText) else none
  | _ => none

end LockEvent

def afterAll (events : List LockEvent) (w : Workspace) : Workspace :=
  events.foldl (fun w e => e.after w) w

def history : List LockEvent → Workspace → List (Path × LockEvent)
  | [], _ => []
  | e :: events, w => (w.current, e) :: history events (e.after w)

def keptIn (d : Path) (kept : Option String) (done : List (Path × LockEvent)) : Option String :=
  done.foldl (fun kept x => if x.1 = d then x.2.leaves?.getD kept else kept) kept

/-- The name that was stored last in a directory, unless the lock was cleared since. -/
def lastStored (d : Path) (done : List (Path × LockEvent)) : Option String := keptIn d none done

section

variable {d : Path} {name : String} {done : List (Path × LockEvent)}

end

theorem lastStored_concat (d : Path) (done : List (Path × LockEvent)) (p : Path) (e : LockEvent) :
    lastStored d (done ++ [(p, e)]) =
      if p = d then e.leaves?.getD (lastStored d done) else lastStored d done := by
  rw [lastStored, keptIn, List.foldl_append]
  rfl

/-- Locks are as a history says. -/
structure Follows (w : Workspace) (done : List (Path × LockEvent)) : Prop where
  current : w.node? w.current = some .directory
  locks : ∀ d, w.node? (lockOf d) = (lastStored d done).map .file

section

variable {w w' : Workspace} {done : List (Path × LockEvent)} {e : LockEvent}

theorem Follows.untouched (h : Follows w done) (current : w'.node? w'.current = some .directory)
    (locks : ∀ d, w'.node? (lockOf d) = w.node? (lockOf d)) (leaves : e.leaves? = none) :
    Follows w' (done ++ [(w.current, e)]) where
  current := current
  locks d := by
    rw [locks, h.locks, lastStored_concat, leaves, Option.getD_none, ite_self]

theorem Follows.changed (h : Follows w done) {nodes : OrderedMap Path Node} {kept : Option String}
    (locked : ∀ q, { w with nodes }.node? q = if lockOf w.current = q then kept.map .file else w.node? q)
    (leaves : e.leaves? = some kept) : Follows { w with nodes } (done ++ [(w.current, e)]) where
  current := by rw [locked, if_neg (lockOf_ne_self _), h.current]
  locks d := by
    rw [locked, h.locks, lastStored_concat, leaves, Option.getD_some]
    simp only [lockOf_inj]
    split <;> rfl

theorem LockEvent.after_store (h : Follows w done) (ns : List Nat) :
    (store ns).after w = { w with nodes := w.nodes.insert (lockOf w.current) (.file (storedText ns)) } := by
  rw [after, perform, storeLock_of_kept h.current (h.locks w.current)]

theorem LockEvent.after_of_ok {change : Workspace → Except Error Workspace} (does : e.perform = wholly change)
    (h : change w = .ok w') : e.after w = w' := by
  rw [after, does, wholly, Action.bind_apply]
  simp only [Action.get_apply, Action.bind_apply, h, Action.lift_apply, Action.set_apply]

theorem LockEvent.after_of_error {change : Workspace → Except Error Workspace} (does : e.perform = wholly change)
    {x : Error} (h : change w = .error x) : e.after w = w := by
  rw [after, does, wholly, Action.bind_apply]
  simp only [Action.get_apply, Action.bind_apply, h, Action.lift_apply]

theorem LockEvent.after_clear (h : Follows w done) :
    clear.after w = { w with nodes := w.nodes.erase (lockOf w.current) } :=
  after_of_ok rfl (clearLock_of_kept h.current (h.locks w.current))

theorem LockEvent.after_of_ask {α : Type} {question : Workspace → Except Error α}
    (asks : e.perform = ask question) : e.after w = w := by
  rw [after, asks, ask, Action.bind_apply]
  exact Action.bind_lift_snd _ (fun _ => .ok ()) w

end

/-! What a check of a connection does. -/

section

variable {w : Workspace} {rows : Except Error (List (String × String))} {expected : Except Error Columns}
  {profileName : Option (List Nat)} {lock : Bool}

theorem check_snd : (check rows expected profileName lock w).2 =
    if lock && checks rows expected then (storeName profileName w).2 else w := by
  cases rows with
  | error x =>
    have fails : checks (.error x) expected = false := rfl
    rw [fails, Bool.and_false, if_neg Bool.false_ne_true, check]
    split <;> rfl
  | ok rows =>
    cases expected with
    | error x =>
      have fails : checks (.ok rows) (.error x) = false := rfl
      rw [fails, Bool.and_false, if_neg Bool.false_ne_true]
      rfl
    | ok expected =>
      rw [check_of_rows, Action.bind_lift_snd, checks, Bool.and_comm]
      split <;> rfl

/-- It does what storing the name does, or nothing. -/
theorem LockEvent.after_connect (w : Workspace) (rows : Except Error (List (String × String)))
    (expected : Except Error Columns) (profileName : Option (List Nat)) (lock : Bool) :
    let e := connect rows expected profileName lock
    e.leaves? = none ∧ e.after w = w ∨
      ∃ ns, e.leaves? = some (some (storedText ns)) ∧ e.after w = (store ns).after w := by
  intro e
  have left : e.after w = (check rows expected profileName lock w).2 :=
    Action.bind_lift_snd _ (fun _ => .ok ()) w
  rw [left, check_snd, leaves?]
  split
  · match profileName with
    | none => exact .inl ⟨rfl, rfl⟩
    | some [] => exact .inl ⟨rfl, rfl⟩
    | some (n :: ns) => exact .inr ⟨n :: ns, rfl, rfl⟩
  · exact .inl ⟨rfl, rfl⟩

end

section

variable {w w' : Workspace} {done : List (Path × LockEvent)}

theorem changeDirectory_eq_ok {path : String} : w.changeDirectory path = .ok w' ↔
    ∃ p, w.resolve path = .ok p ∧ w.node? p = some .directory ∧ w' = w.seenFrom p := by
  rw [changeDirectory, bind_eq_ok]
  refine exists_congr fun p => and_congr_right fun _ => ?_
  cases w.node? p with
  | none => exact ⟨nofun, nofun⟩
  | some n =>
    cases n with
    | file text => exact ⟨nofun, nofun⟩
    | directory =>
      rw [and_iff_right rfl, eq_comm (a := w')]
      exact pure_eq_ok

theorem Follows.step (h : Follows w done) (e : LockEvent) :
    Follows (e.after w) (done ++ [(w.current, e)]) := by
  have stored (ns : List Nat) (leaves : e.leaves? = some (some (storedText ns))) :
      Follows ((LockEvent.store ns).after w) (done ++ [(w.current, e)]) := by
    rw [LockEvent.after_store h]
    exact h.changed (node?_insert w (lockOf_ne_nil _) _) leaves
  cases e with
  | store ns => exact stored ns rfl
  | clear =>
    rw [LockEvent.after_clear h]
    exact h.changed (node?_erase w (lockOf_ne_nil _)) rfl
  | read | activeName start | engine name url start path =>
    refine h.untouched ?_ (fun d => ?_) rfl <;> rw [LockEvent.after_of_ask rfl]
    exact h.current
  | connect rows expected profileName lock =>
    rcases LockEvent.after_connect w rows expected profileName lock with ⟨leaves, same⟩ | ⟨ns, leaves, same⟩
    · rw [same]
      exact h.untouched h.current (fun _ => rfl) leaves
    · rw [same]
      exact stored ns leaves
  | changeDirectory path =>
    cases moved : w.changeDirectory path with
    | error x =>
      rw [LockEvent.after_of_error (e := .changeDirectory path) rfl moved]
      exact h.untouched h.current (fun _ => rfl) rfl
    | ok w' =>
      obtain ⟨p, _, directory, rfl⟩ := changeDirectory_eq_ok.1 moved
      rw [LockEvent.after_of_ok (e := .changeDirectory path) rfl moved]
      exact h.untouched directory (fun _ => rfl) rfl
  | other what =>
    have left : (LockEvent.other what).after w = what.change w := rfl
    refine h.untouched ?_ (what.locks w) rfl
    rw [left, what.current]
    exact what.directories w _ h.current

theorem Follows.run (h : Follows w done) (events : List LockEvent) :
    Follows (afterAll events w) (done ++ history events w) := by
  induction events generalizing w done with
  | nil => rwa [history, List.append_nil]
  | cons e events ih => simpa [afterAll, history] using ih (h.step e)

end

/-! What is read. -/

section

variable {name s : String} {ns : List Nat}

end

section

variable {w : Workspace} {variablePrefix : List Nat}

end

/-- The lock of a directory holds a text: its name is read back there, and counts for the active profile unless
a variable names one. The lock can be stored and cleared, and only what cannot be encoded fails. -/
structure Holds (w : Workspace) (d : Path) (kept : Option String) : Prop where
  reads : (w.seenFrom d).readLock = .ok (kept.bind readBack)
  stores : ∀ ns, (storeLock ns (w.seenFrom d)).1 =
    (Text.ofCodePoints? ns).elim (.error .unencodable) fun _ => .ok ⟨⟩
  clears : ∃ w', (w.seenFrom d).clearLock = .ok w'
  named : ∀ variablePrefix name, variablePrefix.all isSystemPoint →
    w.environment.get? (profileVariable variablePrefix) = some name → name ≠ [] →
    (w.seenFrom d).activeName variablePrefix = .ok name
  unnamed : ∀ variablePrefix, variablePrefix.all isSystemPoint →
    (∀ name, w.environment.get? (profileVariable variablePrefix) = some name → name = []) →
    (w.seenFrom d).activeName variablePrefix =
      (kept.bind readBack).elim (.error (.noProfile variablePrefix)) (.ok ∘ Text.codePoints)
  unencodable : ∀ variablePrefix, variablePrefix.all isSystemPoint = false →
    (w.seenFrom d).activeName variablePrefix = .error .unencodable

end RecordMapper.Workspace
