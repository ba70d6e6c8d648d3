import RecordMapper.Error
import RecordMapper.Toml.Value

/-!
TOML documents. A document is a row of statements, each on a line: a key with its value, a table to
go on with, or an array of tables to add to. A table is declared once, what was written inline is
closed, and what dotted keys have made is closed from the next table on.
-/
namespace RecordMapper.Toml

structure Document where
  root : Mapping := .empty
  /-- The table that the next entries belong to. -/
  header : List String := []
  /-- Tables that may not be declared again. -/
  declared : List (List String) := []
  /-- Tables made by dotted keys of the current table. -/
  pending : List (List String) := []
  /-- Arrays and tables that were written inline. -/
  frozen : List (List String) := []

namespace Document

def addEntry (d : Document) (key : List String) (v : Value) : Option Document := do
  let parents := (List.range key.length).tail.map fun n => d.header ++ key.take n
  if parents.any d.declared.contains then none
  let parent := d.header ++ key.dropLast
  if isUnder parent d.frozen then none
  let root ← changeTable true (addNew (key.getLastD "") v) parent d.root
  let frozen := if isContainer v then (d.header ++ key) :: d.frozen else d.frozen
  return { d with root, frozen, pending := parents ++ d.pending }

def closePending (d : Document) : Document :=
  { d with declared := d.pending ++ d.declared, pending := [] }

def openTable (d : Document) (key : List String) : Option Document := do
  if d.declared.contains key || isUnder key d.frozen then none
  let root ← changeTable true some key d.root
  return { d with root, header := key, declared := key :: d.declared }

def appendTable (key : String) (m : Mapping) : Option Mapping :=
  match m.get? (.text key) with
  | none => some (m.insert (.text key) (.list [.dict []]))
  | some (.list xs) => some (m.insert (.text key) (.list (xs ++ [.dict []])))
  | some _ => none

/-- Goes on with a new table of an array of tables. What was said about the tables under the key
was about the one before. -/
def openArrayTable (d : Document) (key : List String) : Option Document := do
  if isUnder key d.frozen then none
  let root ← changeTable true (appendTable (key.getLastD "")) key.dropLast d.root
  let keep := fun (paths : List (List String)) => paths.filter fun p => !key.isPrefixOf p
  return { d with root, header := key, declared := key :: keep d.declared, frozen := keep d.frozen }

def readStatement (d : Document) (cs : List Char) : Except Flaw (Document × List Char) :=
  match cs with
  | '[' :: '[' :: rest => do
    let (key, rest) ← expected (readKey (skipSpace rest))
    let d ← expected (d.closePending.openArrayTable key)
    match rest with
    | ']' :: ']' :: rest => return (d, rest)
    | _ => throw .malformed
  | '[' :: rest => do
    let (key, rest) ← expected (readKey (skipSpace rest))
    let d ← expected (d.closePending.openTable key)
    match rest with
    | ']' :: rest => return (d, rest)
    | _ => throw .malformed
  | '#' :: _ => pure (d, cs)
  | cs => do
    let (key, v, rest) ← readEntry (2 * cs.length + 2) cs
    return (← expected (d.addEntry key v), rest)

/-- The rest of a document, line by line. The first argument bounds the number of lines. -/
def readLines : Nat → Document → List Char → Except Flaw Document
  | 0, d, cs => if cs.isEmpty then pure d else throw .malformed
  | steps + 1, d, cs =>
    match skipSpace cs with
    | [] => pure d
    | '\n' :: rest => readLines steps d rest
    | cs => do
      let (d, rest) ← d.readStatement cs
      match ← expected (skipComment (skipSpace rest)) with
      | [] => return d
      | '\n' :: rest => readLines steps d rest
      | _ => throw .malformed

end Document

def joinLineEnds : List Char → List Char
  | [] => []
  | '\r' :: '\n' :: cs => '\n' :: joinLineEnds cs
  | c :: cs => c :: joinLineEnds cs

def parse (text : String) : Except Error Mapping :=
  let cs := joinLineEnds text.toList
  match Document.readLines (cs.length + 1) {} cs with
  | .ok d => pure d.root
  | .error .malformed => throw .badToml
  | .error .overlongNumber => throw .badValue

end RecordMapper.Toml
