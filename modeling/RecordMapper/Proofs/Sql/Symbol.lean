import RecordMapper.Relation.Join

/-!
How a database reads what stands in a query. A text is cut into symbols, of which bare names and names
between quotes are read in different ways: a database may take bare names for the same that are spelled
differently. From the symbols it is told which name a column of a query has, and which columns it takes
from which range.
-/
namespace RecordMapper.Sql

/-- A symbol of a query. Blanks between symbols do not count. -/
inductive Symbol
  | bare (name : String)
  | quoted (name : String)
  | literal (text : String)
  | mark (c : Char)
deriving DecidableEq

/-- What a scan has begun to read: a bare name, or something between quotes. -/
inductive Scan
  | nothing
  | bare (read : List Char)
  | inside (quote : Char) (symbol : String → Symbol) (read : List Char)

def isNameChar (c : Char) : Bool := c.isAlphanum || c == '_'

def isName (s : String) : Bool := !s.toList.isEmpty && s.toList.all isNameChar

namespace Scan

def start (c : Char) : List Symbol × Scan :=
  if isNameChar c then ([], bare [c])
  else if c = '"' then ([], inside c .quoted [])
  else if c = '\'' then ([], inside c .literal [])
  else if c = ' ' then ([], nothing)
  else ([.mark c], nothing)

/-- The symbols that a character completes, and what is read then. -/
def next : Scan → Char → List Symbol × Scan
  | nothing, c => start c
  | bare read, c =>
    if isNameChar c then ([], bare (read ++ [c]))
    else (.bare (String.ofList read) :: (start c).1, (start c).2)
  | inside quote symbol read, c =>
    if c = quote then ([symbol (String.ofList read)], nothing)
    else ([], inside quote symbol (read ++ [c]))

def stop : Scan → List Symbol
  | nothing => []
  | bare read => [.bare (String.ofList read)]
  | inside quote _ _ => [.mark quote]

def symbols : Scan → List Char → List Symbol
  | scan, [] => scan.stop
  | scan, c :: cs => (scan.next c).1 ++ symbols (scan.next c).2 cs

end Scan

def symbols (text : String) : List Symbol := Scan.nothing.symbols text.toList

/-- How a database reads bare names and names between quotes. -/
structure Reading where
  bare : String → String
  quoted : String → String

namespace Reading

/-- Every name is read as it is spelled. -/
def exact : Reading := ⟨id, id⟩

/-- Bare names are read in lower case. -/
def folding : Reading := ⟨fun s => String.ofList (s.toList.map Char.toLower), id⟩

variable (reading : Reading)

def name? : Symbol → Option String
  | .bare s => some (reading.bare s)
  | .quoted s => some (reading.quoted s)
  | _ => none

def columnName (text : String) : Option String :=
  match (symbols text).reverse with
  | [last] => reading.name? last
  | [last, .mark '.', _] => reading.name? last
  | last :: .bare "AS" :: _ => reading.name? last
  | _ => none

/-- A range and a column of it, if symbols begin with such a reference. -/
def reference? : List Symbol → Option (String × String)
  | range :: .mark '.' :: column :: _ => do return (← reading.name? range, ← reading.name? column)
  | _ => none

def referencesOf : List Symbol → List (String × String)
  | [] => []
  | s :: rest => (reading.reference? (s :: rest)).toList ++ referencesOf rest

def references (text : String) : List (String × String) := reading.referencesOf (symbols text)

end Reading

theorem isName_iff {s : String} :
    isName s = true ↔ s.toList ≠ [] ∧ s.toList.all isNameChar = true := by
  simp [isName]

theorem not_mem_of_isName {name : String} (h : isName name) {c : Char}
    (other : isNameChar c = false) : c ∉ name.toList := by
  intro mem
  rw [List.all_eq_true.1 (isName_iff.1 h).2 c mem] at other
  cases other

namespace Scan

theorem symbols_bare {name : List Char} (h : name.all isNameChar) (read rest : List Char) :
    (bare read).symbols (name ++ rest) = (bare (read ++ name)).symbols rest := by
  induction name generalizing read with
  | nil => simp
  | cons c name ih =>
    rw [List.all_cons, Bool.and_eq_true] at h
    rw [List.cons_append, symbols, next, if_pos h.1]
    simpa using ih h.2 (read ++ [c])

theorem symbols_name {name : String} (h : isName name) (rest : List Char) :
    nothing.symbols (name.toList ++ rest) = (bare name.toList).symbols rest := by
  obtain ⟨some, all⟩ := isName_iff.1 h
  cases chars : name.toList with
  | nil => exact absurd chars some
  | cons c cs =>
    rw [chars, List.all_cons, Bool.and_eq_true] at all
    rw [List.cons_append, symbols, next, start, if_pos all.1]
    exact symbols_bare all.2 [c] rest

theorem symbols_inside {quote : Char} {symbol : String → Symbol} {name : List Char}
    (h : quote ∉ name) (read rest : List Char) :
    (inside quote symbol read).symbols (name ++ quote :: rest) =
      symbol (String.ofList (read ++ name)) :: nothing.symbols rest := by
  induction name generalizing read with
  | nil => simp [symbols, next]
  | cons c name ih =>
    rw [List.mem_cons, not_or] at h
    rw [List.cons_append, symbols, next, if_neg (Ne.symm h.1)]
    simpa using ih h.2 (read ++ [c])

theorem symbols_quotedName {name : String} (h : isName name) (rest : List Char) :
    nothing.symbols ((Relation.quotedName name).toList ++ rest) =
      .quoted name :: nothing.symbols rest := by
  have chars : (Relation.quotedName name).toList ++ rest = '"' :: (name.toList ++ '"' :: rest) := by
    simp [Relation.quotedName]
  rw [chars]
  change (inside '"' .quoted []).symbols _ = _
  rw [symbols_inside (not_mem_of_isName h rfl), List.nil_append, String.ofList_toList]

theorem symbols_nameMark {name : String} (h : isName name) {c : Char}
    (mark : start c = ([.mark c], nothing)) (other : isNameChar c = false) (rest : List Char) :
    nothing.symbols (name.toList ++ c :: rest) = .bare name :: .mark c :: nothing.symbols rest := by
  rw [symbols_name h, symbols, next, if_neg (by simp [other]), mark, String.ofList_toList]
  rfl

theorem symbols_lastName {name : String} (h : isName name) :
    nothing.symbols name.toList = [.bare name] := by
  have read := symbols_name h []
  rw [List.append_nil] at read
  rw [read]
  change [Symbol.bare (String.ofList name.toList)] = _
  rw [String.ofList_toList]

theorem symbols_lastQuotedName {name : String} (h : isName name) :
    nothing.symbols (Relation.quotedName name).toList = [.quoted name] := by
  have read := symbols_quotedName h []
  rwa [List.append_nil] at read

/-- The text can be read for itself, wherever a symbol may begin. -/
def Complete (text : List Char) : Prop :=
  ∃ ss, ∀ rest, nothing.symbols (text ++ rest) = ss ++ nothing.symbols rest

theorem Complete.append {first later : List Char} (h : Complete first) (h' : Complete later) :
    Complete (first ++ later) := by
  obtain ⟨ss, first⟩ := h
  obtain ⟨ss', later⟩ := h'
  exact ⟨ss ++ ss', fun rest => by rw [List.append_assoc, first, later, List.append_assoc]⟩

theorem complete_nil : Complete [] := ⟨[], fun _ => rfl⟩

theorem complete_comma : Complete ", ".toList := ⟨[.mark ','], fun _ => rfl⟩

theorem complete_literal {name : String} (h : isName name) : Complete ("'" ++ name ++ "'").toList := by
  refine ⟨[.literal name], fun rest => ?_⟩
  have chars : ("'" ++ name ++ "'").toList ++ rest = '\'' :: (name.toList ++ '\'' :: rest) := by simp
  rw [chars]
  change (inside '\'' .literal []).symbols _ = _
  rw [symbols_inside (not_mem_of_isName h rfl), List.nil_append, String.ofList_toList]
  rfl

theorem complete_quotedName {name : String} (h : isName name) :
    Complete (Relation.quotedName name).toList :=
  ⟨[.quoted name], symbols_quotedName h⟩

theorem complete_intercalate {texts : List String} (h : ∀ text ∈ texts, Complete text.toList) :
    Complete (", ".intercalate texts).toList := by
  induction texts with
  | nil => exact complete_nil
  | cons text texts ih =>
    rw [List.forall_mem_cons] at h
    cases texts with
    | nil => simpa using h.1
    | cons other texts =>
      rw [String.intercalate_cons_cons, String.toList_append, String.toList_append]
      exact (h.1.append complete_comma).append (ih h.2)

theorem complete_jsonObject {columns : List String} (h : ∀ c ∈ columns, isName c) :
    Complete (Relation.jsonObject columns).toList := by
  have opening : Complete "json_build_object(".toList := by
    refine ⟨[.bare "json_build_object", .mark '('], fun rest => ?_⟩
    have function : isName "json_build_object" := by decide
    have chars : "json_build_object(".toList = "json_build_object".toList ++ ['('] := by simp
    rw [chars, List.append_assoc]
    exact symbols_nameMark function rfl rfl rest
  have closing : Complete ")".toList := ⟨[.mark ')'], fun _ => rfl⟩
  unfold Relation.jsonObject
  rw [String.toList_append, String.toList_append]
  refine (opening.append (complete_intercalate ?_)).append closing
  intro text mem
  obtain ⟨c, hc, rfl⟩ := List.mem_map.1 mem
  have split : "'" ++ c ++ "', " ++ Relation.quotedName c =
      ("'" ++ c ++ "'") ++ ", " ++ Relation.quotedName c := by simp [String.append_assoc]
  rw [split, String.toList_append, String.toList_append]
  exact ((complete_literal (h c hc)).append complete_comma).append (complete_quotedName (h c hc))

end Scan

theorem symbols_column {range column : String} (hr : isName range) (hc : isName column) :
    symbols (range ++ "." ++ column) = [.bare range, .mark '.', .bare column] := by
  have chars : (range ++ "." ++ column).toList = range.toList ++ '.' :: column.toList := by simp
  rw [symbols, chars, Scan.symbols_nameMark hr rfl rfl, Scan.symbols_lastName hc]

theorem symbols_quotedColumn {range column : String} (hr : isName range) (hc : isName column) :
    symbols (range ++ "." ++ Relation.quotedName column) =
      [.bare range, .mark '.', .quoted column] := by
  have chars : (range ++ "." ++ Relation.quotedName column).toList =
      range.toList ++ '.' :: (Relation.quotedName column).toList := by simp
  rw [symbols, chars, Scan.symbols_nameMark hr rfl rfl, Scan.symbols_lastQuotedName hc]

namespace Reading

variable (reading : Reading)

theorem columnName_name {column : String} (h : isName column) :
    reading.columnName column = some (reading.bare column) := by
  rw [columnName, symbols, Scan.symbols_lastName h]
  rfl

theorem columnName_column {range column : String} (hr : isName range) (hc : isName column) :
    reading.columnName (range ++ "." ++ column) = some (reading.bare column) := by
  rw [columnName, symbols_column hr hc]
  rfl

theorem columnName_as {text name : String} (complete : Scan.Complete text.toList) (h : isName name) :
    reading.columnName (text ++ " AS " ++ Relation.quotedName name) = some (reading.quoted name) := by
  obtain ⟨ss, read⟩ := complete
  have last : symbols (text ++ " AS " ++ Relation.quotedName name) =
      ss ++ [.bare "AS", .quoted name] := by
    rw [symbols, String.append_assoc, String.toList_append, read, String.toList_append]
    congr 1
    change Symbol.bare "AS" :: Scan.nothing.symbols (Relation.quotedName name).toList = _
    rw [Scan.symbols_lastQuotedName h]
  rw [columnName, last, List.reverse_append]
  rfl

theorem references_column {range column : String} (hr : isName range) (hc : isName column) :
    reading.references (range ++ "." ++ column) = [(reading.bare range, reading.bare column)] := by
  rw [references, symbols_column hr hc]
  rfl

theorem references_quotedColumn {range column : String} (hr : isName range) (hc : isName column) :
    reading.references (range ++ "." ++ Relation.quotedName column) =
      [(reading.bare range, reading.quoted column)] := by
  rw [references, symbols_quotedColumn hr hc]
  rfl

end Reading

end RecordMapper.Sql
