import RecordMapper.Profile.Basic
import RecordMapper.Toml.Document
import RecordMapper.Workspace

/-!
The configuration file: a TOML document with a table of profiles.
-/
namespace RecordMapper.Config

def fileName : String := "db.toml"

def shownPath : Option String → String
  | some path => normalPath path
  | none => "<cwd>/" ++ fileName

def profiles (document : Mapping) : Except Error (OrderedMap String Profile) := do
  match document.get? (.text "profiles") with
  | none => return .empty
  | some (.dict es) =>
    return .ofEntries (← es.mapM fun e => do return (e.1.shown, ← Profile.declare e.2))
  | some _ => throw .noAttribute

def load (w : Workspace) (path : Option String) : Except Error (OrderedMap String Profile) := do
  let file := normalPath (path.getD fileName)
  unless ← w.leadsSomewhere file do throw (.noConfig (shownPath path))
  profiles (← Toml.parse (← w.read file))

end RecordMapper.Config
