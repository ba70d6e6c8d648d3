import RecordMapper.Profile.Active
import RecordMapper.Schema.Introspection

/-!
Checking a connection: the live columns are read and compared with the declared ones, and on success
the profile may be locked. A failure of the database is part of the report; only a request to stop
passes through.
-/
namespace RecordMapper

structure ConnectionReport where
  success : Bool
  profileName : Option String
  schemaValid : Option Bool
  drift : Option DriftReport
  error : Option String

namespace ConnectionReport

def unreachable (profileName : Option String) (e : Error) : ConnectionReport :=
  { success := false, profileName, schemaValid := none, drift := none
    error := some ("Failed to connect to database: " ++ e.message) }

def ofDrift (profileName : Option String) (drift : DriftReport) : ConnectionReport :=
  { success := drift.valid, profileName, schemaValid := some drift.valid, drift := some drift
    error := if drift.valid then none
      else some ("Schema validation failed: " ++ toString drift.errorCount ++ " errors") }

/-- The report that is made for a name. The name has to be text. -/
def named (name : Option (List Nat)) (report : Option String → ConnectionReport) :
    Except Error ConnectionReport :=
  match name with
  | none => pure (report none)
  | some ns =>
    match Text.ofCodePoints? ns with
    | some name => pure (report name)
    | none => throw (.declaration [⟨[.field "profile_name"], .badEncoding⟩])

end ConnectionReport

namespace Workspace

def storeName : Option (List Nat) → Action Workspace Unit
  | some (n :: ns) => storeLock (n :: ns)
  | _ => pure ()

/-- Checks a connection, and locks the profile if that is asked for, the check succeeds and the
profile has a name. -/
def check (rows : Except Error (List (String × String))) (expected : Except Error Columns)
    (profileName : Option (List Nat)) (lock : Bool) : Action Workspace ConnectionReport := do
  match rows with
  | .error e =>
    if e.isOrdinary then ConnectionReport.named profileName (.unreachable · e) else throw e
  | .ok rows =>
    let drift := DriftReport.compare (Introspection.columns rows) (← expected)
    if drift.valid && lock then storeName profileName
    ConnectionReport.named profileName (.ofDrift · drift)

def connect (w : Workspace) (rows : Except Error (List (String × String))) (expected : Columns)
    (profileName : Option String) (lock : Bool) : Except Error (ConnectionReport × Workspace) :=
  let ended := check rows (.ok expected) (profileName.map Text.codePoints) lock w
  ended.1.map (·, ended.2)

end Workspace

end RecordMapper
