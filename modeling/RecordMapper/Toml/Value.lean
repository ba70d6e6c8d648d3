import RecordMapper.Toml.Scalar

/-!
The values of a TOML document: scalars, strings, arrays and inline tables.
-/
namespace RecordMapper.Toml

/-- Changes the table at the end of a path; tables on the way are made as needed. Paths lead
through the last table of an array if `throughArrays` is set. Nothing else can be passed. -/
def changeTable (throughArrays : Bool) (f : Mapping → Option Mapping) :
    List String → Mapping → Option Mapping
  | [], m => f m
  | k :: ks, m =>
    match m.get? (.text k) with
    | none => do return m.insert (.text k) (← changeTable throughArrays f ks .empty).toValue
    | some (.dict es) => do
      return m.insert (.text k) (← changeTable throughArrays f ks (.ofEntries es)).toValue
    | some (.list xs) =>
      match xs.getLast? with
      | some (.dict es) =>
        if throughArrays then do
          let last ← changeTable throughArrays f ks (.ofEntries es)
          return m.insert (.text k) (.list (xs.dropLast ++ [last.toValue]))
        else none
      | _ => none
    | some _ => none

def addNew (key : String) (v : Value) (m : Mapping) : Option Mapping :=
  if m.contains (.text key) then none else some (m.insert (.text key) v)

def isUnder (path : List String) (paths : List (List String)) : Bool :=
  paths.any fun p => p.isPrefixOf path

/-- Arrays and tables are closed once they are written inline. -/
def isContainer : Value → Bool
  | .list _ | .dict _ => true
  | _ => false

mutual

/-- A value. The first argument bounds the number of steps. -/
def readValue : Nat → List Char → Except Flaw (Value × List Char)
  | 0, _ => throw .malformed
  | steps + 1, cs =>
    match cs with
    | '"' :: _ | '\'' :: _ => do
      let (s, rest) ← expected (readString cs)
      return (.text s, rest)
    | '[' :: rest => do
      let rest ← expected (skipBetween rest.length rest)
      match rest with
      | ']' :: rest => return (.list [], rest)
      | rest =>
        let (items, rest) ← readItems steps rest
        return (.list items, rest)
    | '\x7b' :: rest =>
      match skipSpace rest with
      | '\x7d' :: rest => pure (.dict [], rest)
      | rest => do
        let (m, rest) ← readEntries steps .empty [] rest
        return (m.toValue, rest)
    | cs => readScalar cs

def readItems : Nat → List Char → Except Flaw (List Value × List Char)
  | 0, _ => throw .malformed
  | steps + 1, cs => do
    let (item, rest) ← readValue steps cs
    match ← expected (skipBetween rest.length rest) with
    | ']' :: rest => return ([item], rest)
    | ',' :: rest =>
      match ← expected (skipBetween rest.length rest) with
      | ']' :: rest => return ([item], rest)
      | rest =>
        let (items, rest) ← readItems steps rest
        return (item :: items, rest)
    | _ => throw .malformed

def readEntries : Nat → Mapping → (frozen : List (List String)) → List Char →
    Except Flaw (Mapping × List Char)
  | 0, _, _, _ => throw .malformed
  | steps + 1, m, frozen, cs => do
    let (key, v, rest) ← readEntry steps cs
    if isUnder key frozen then throw .malformed
    let m ← expected (changeTable false (addNew (key.getLastD "") v) key.dropLast m)
    match skipSpace rest with
    | '\x7d' :: rest => return (m, rest)
    | ',' :: rest =>
      readEntries steps m (if isContainer v then key :: frozen else frozen) (skipSpace rest)
    | _ => throw .malformed

def readEntry : Nat → List Char → Except Flaw (List String × Value × List Char)
  | 0, _ => throw .malformed
  | steps + 1, cs => do
    let (key, rest) ← expected (readKey cs)
    match rest with
    | '=' :: rest =>
      let (v, rest) ← readValue steps (skipSpace rest)
      return (key, v, rest)
    | _ => throw .malformed

end

end RecordMapper.Toml
