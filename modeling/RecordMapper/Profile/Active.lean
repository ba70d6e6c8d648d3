import RecordMapper.Engine.Arguments
import RecordMapper.Profile.Config
import RecordMapper.Text.Blank

/-!
The active profile. It is named by the caller, else by an environment variable, else by a lock file
in the working directory, which remembers the last profile that was found valid.
-/
namespace RecordMapper.Workspace

def lockFile : String := ".db-profile"

def readText (w : Workspace) (path : String) : Except Error String := do
  return String.ofList (Text.unifyLineEnds (← w.read path).toList)

/-- The name that the text of a lock file stands for: the text without blanks around, unless nothing
remains. -/
def lockedName (text : String) : Option String :=
  let name := Text.trim text
  if name.isEmpty then none else some name

def readLock (w : Workspace) : Except Error (Option String) := do
  if ← w.leadsSomewhere lockFile then (w.readText lockFile).map lockedName else return none

def storeLock (name : List Nat) : Action Workspace Unit := writePoints lockFile name

def writeLock (w : Workspace) (name : String) : Except Error Workspace :=
  let ended := storeLock (Text.codePoints name) w
  ended.1.map fun _ => ended.2

def clearLock (w : Workspace) : Except Error Workspace := w.remove lockFile

def profileVariable (variablePrefix : List Nat) : List Nat := variablePrefix ++ Text.codePoints "DB_PROFILE"

def activeName (w : Workspace) (variablePrefix : List Nat) : Except Error (List Nat) := do
  match (← w.readVariable (profileVariable variablePrefix)).filter (!·.isEmpty) with
  | some name => return name
  | none =>
    match ← w.readLock with
    | some name => return Text.codePoints name
    | none => throw (.noProfile variablePrefix)

def activeProfile (w : Workspace) (name : Option (List Nat)) (variablePrefix : List Nat)
    (path : Option String) : Except Error (String × Profile) := do
  let name ← match name with
    | some name => pure name
    | none => w.activeName variablePrefix
  let profiles ← Config.load w path
  match (Text.ofCodePoints? name).bind fun found => (profiles.get? found).map (found, ·) with
  | some active => return active
  | none => throw (.unknownProfile name profiles.keys)

/-- The arguments of the engine for the active profile, or for a URL, which wins over profiles. -/
def engine (w : Workspace) (name : Option (List Nat)) (url : Option String) (variablePrefix : List Nat)
    (path : Option String) : Except Error Engine.Arguments := do
  match url with
  | some url => return Engine.pooled (Engine.normalizeUrl url) .empty
  | none =>
    let (_, profile) ← w.activeProfile name variablePrefix path
    return Engine.pooled (Engine.normalizeUrl profile.resolveUrl) profile.engineOptions

end RecordMapper.Workspace
