import RecordMapper.Action

/-!
The place that a program works in: files and directories, a working directory and the environment
variables. Paths are lists of names from the root. The text of a path is followed name by name, and
each name has to lead on from a directory.
-/
namespace RecordMapper

inductive Node
  | file (text : String)
  | directory
deriving DecidableEq, Repr

abbrev Path := List String

/-- Why the text of a path leads nowhere. -/
inductive PathFault
  | missing
  /-- Something on the way is a file. -/
  | notDirectory
  | tooLong
  /-- The text has a character that no path has. -/
  | malformed
deriving DecidableEq, Repr

def PathFault.toError (path : String) : PathFault → Error
  | missing => .notFound path
  | notDirectory => .notDirectory
  | tooLong => .badName
  | malformed => .badValue

/-- Files, working directory and environment. The root is always a directory. Variables are code points, as
what the system gives need not be text. -/
structure Workspace where
  nodes : OrderedMap Path Node := .empty
  current : Path := []
  environment : OrderedMap (List Nat) (List Nat) := .empty

/-- The text of a path without repeated separators, names `.` and separators at the end. Exactly two
separators at the start are kept. -/
def normalPath (path : String) : String :=
  let names := "/".intercalate ((path.splitOn "/").filter fun name => name != "" && name != ".")
  match path.toList with
  | '/' :: '/' :: '/' :: _ => "/" ++ names
  | '/' :: '/' :: _ => "//" ++ names
  | '/' :: _ => "/" ++ names
  | _ => if names.isEmpty then "." else names

namespace Workspace

def fresh : Workspace :=
  { nodes := .ofEntries [(["tmp"], .directory), (["tmp", "work"], .directory)]
    current := ["tmp", "work"] }

def node? (w : Workspace) (p : Path) : Option Node :=
  if p.isEmpty then some .directory else w.nodes.get? p

def longestName : Nat := 255

def longestPath : Nat := 4095

def follow (w : Workspace) (p : Path) (name : String) : Except PathFault Path :=
  match w.node? p with
  | none => throw .missing
  | some (.file _) => throw .notDirectory
  | some .directory =>
    if name == "." then pure p
    else if name == ".." then pure p.dropLast
    else if longestName < name.utf8ByteSize then throw .tooLong
    else pure (p ++ [name])

def locate (w : Workspace) (path : String) : Except PathFault Path := do
  if path.toList.contains '\x00' then throw .malformed
  if path.isEmpty then throw .missing
  if longestPath < path.utf8ByteSize then throw .tooLong
  ((path.splitOn "/").filter (· != "")).foldlM w.follow
    (if path.startsWith "/" then [] else w.current)

def resolve (w : Workspace) (path : String) : Except Error Path :=
  (w.locate path).mapError (·.toError path)

/-- Does the text of a path lead to something? Names that are too long make no sense to ask for. -/
def leadsSomewhere (w : Workspace) (path : String) : Except Error Bool :=
  match w.locate path with
  | .ok p => pure (w.node? p).isSome
  | .error .tooLong => throw .badName
  | .error _ => pure false

def read (w : Workspace) (path : String) : Except Error String := do
  match w.node? (← w.resolve path) with
  | some (.file text) => return text
  | some .directory => throw .isDirectory
  | none => throw (.notFound path)

def write (w : Workspace) (path text : String) : Except Error Workspace := do
  let p ← w.resolve path
  match w.node? p with
  | some .directory => throw .isDirectory
  | _ => return { w with nodes := w.nodes.insert p (.file text) }

/-- Stores code points in the file at a path. The file is emptied before they are encoded. -/
def writePoints (path : String) (ns : List Nat) : Action Workspace Unit := do
  set (← (← get).write path "")
  match Text.ofCodePoints? ns with
  | some text => set (← (← get).write path text)
  | none => throw .unencodable

def remove (w : Workspace) (path : String) : Except Error Workspace := do
  let p ← w.resolve path
  match w.node? p with
  | some .directory => throw .isDirectory
  | _ => return { w with nodes := w.nodes.erase p }

def makeDirectory (w : Workspace) (path : String) : Except Error Workspace := do
  let p ← w.resolve path
  match w.node? p with
  | some _ => throw .alreadyThere
  | none => return { w with nodes := w.nodes.insert p .directory }

def changeDirectory (w : Workspace) (path : String) : Except Error Workspace := do
  let p ← w.resolve path
  match w.node? p with
  | some .directory => return { w with current := p }
  | some (.file _) => throw .notDirectory
  | none => throw (.notFound path)

/-- Is it a code point that the system takes? Of the halves of surrogate pairs some stand for bytes that are no
text. -/
def isSystemPoint (n : Nat) : Bool := n.isValidChar || (0xdc80 ≤ n && n < 0xdd00)

def readVariable (w : Workspace) (name : List Nat) : Except Error (Option (List Nat)) :=
  if name.all isSystemPoint then pure (w.environment.get? name) else throw .unencodable

def setVariable (w : Workspace) (name value : List Nat) : Except Error Workspace := do
  unless (name ++ value).all isSystemPoint do throw .unencodable
  if (name ++ value).contains 0 || name.contains '='.toNat then throw .badValue
  if name.isEmpty then throw .badName
  return { w with environment := w.environment.insert name value }

def unsetVariable (w : Workspace) (name : List Nat) : Workspace :=
  { w with environment := w.environment.erase name }

end Workspace

end RecordMapper
