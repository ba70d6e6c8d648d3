import RecordMapper.Schema.Basic

/-!
Drift between declared and live columns. Declared tables and columns that do not exist are errors,
live tables that no model uses are only mentioned. Everything is listed in the order of code points
and without repetition.
-/
namespace RecordMapper

/-- The columns of each table; neither their order nor their repetition matters. -/
abbrev Columns := OrderedMap String (List String)

def distinctTexts (xs : List String) : List String := sortTexts xs.eraseDups

def Columns.sorted (columns : Columns) : List (String × List String) :=
  (distinctTexts columns.keys).map fun t => (t, distinctTexts ((columns.get? t).getD []))

structure MissingColumn where
  table : String
  column : String
  message : String
deriving DecidableEq, Repr

/-- What a comparison of declared with live columns finds. -/
structure DriftReport where
  valid : Bool
  missingTables : List String
  missingColumns : List MissingColumn
  extraTables : List String
deriving DecidableEq, Repr

namespace DriftReport

def missing (table column : String) : MissingColumn :=
  { table, column, message := s!"Column '{column}' missing from table '{table}'" }

def lacking (actual expected : List String) : List String :=
  distinctTexts (expected.filter fun c => !actual.contains c)

def compare (actual expected : Columns) : DriftReport :=
  let missingTables := distinctTexts (expected.keys.filter fun t => !actual.contains t)
  let extraTables := distinctTexts (actual.keys.filter fun t => !expected.contains t)
  let common := distinctTexts (expected.keys.filter actual.contains)
  let missingColumns := common.flatMap fun t =>
    (lacking ((actual.get? t).getD []) ((expected.get? t).getD [])).map (missing t)
  { valid := missingTables.isEmpty && missingColumns.isEmpty
    missingTables, missingColumns, extraTables }

def errorCount (r : DriftReport) : Nat := r.missingTables.length + r.missingColumns.length

def listing (title : String) (items : List String) : List String :=
  if items.isEmpty then []
  else ("\n  " ++ title ++ " (" ++ toString items.length ++ "):") :: items.map ("    - " ++ ·)

def format (r : DriftReport) : String :=
  if r.valid then "Schema valid"
  else
    let extra :=
      if r.extraTables.isEmpty then []
      else ["\n  Extra tables (warning): " ++ ", ".intercalate r.extraTables]
    "\n".intercalate ("Schema validation failed:" ::
      listing "Missing tables" r.missingTables ++
      listing "Missing columns" (r.missingColumns.map fun m => m.table ++ "." ++ m.column) ++ extra)

end DriftReport

end RecordMapper
