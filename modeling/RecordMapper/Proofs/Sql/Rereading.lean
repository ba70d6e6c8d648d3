import Mathlib.Algebra.GroupWithZero.Nat
import RecordMapper.Proofs.Sql.Alignment
import RecordMapper.Proofs.Sql.Correspondence

/-!
Reading an insertion back. From its text and its values the tuples of an insertion are read, whatever
its names are: brackets and commas stand between them, and a cell is a placeholder or `DEFAULT`. The
columns are read too if no name has one of the characters that end it. Main statement: rows are
inserted under the columns of all of them, and each row is read back as it is stored.
-/
namespace RecordMapper.Sql

/-! The reader. -/

def commaParts (text : List Char) : List (List Char) :=
  match text.splitOn ',' with
  | [] => []
  | first :: later => first :: later.map (List.drop 1)

def continues : List Char → Bool
  | '(' :: _ | ',' :: _ => true
  | _ => false

/-- The texts in the brackets at the front of a text. -/
def bracketed (text : List Char) : List (List Char) :=
  ((text.splitOn ')').takeWhile continues).map fun chunk => (chunk.dropWhile (· != '(')).drop 1

def Cell.read? (parameters : Mapping) : List Char → Option Cell
  | ':' :: name => (parameters.get? (.text (String.ofList name))).map given
  | text => if text = "DEFAULT".toList then some omitted else none

def readCells (parameters : Mapping) (text : List Char) : Option (List Cell) :=
  (commaParts text).mapM (Cell.read? parameters)

def readTuples (parameters : Mapping) (text : List Char) : Option (List (List Cell)) :=
  (bracketed text).mapM (readCells parameters)

/-- What a statement inserts. The name of the table ends at a blank, those of the columns at commas
and at a bracket. -/
def Content.read? (s : Statement) : Option Content :=
  match (s.text.toList.drop "INSERT INTO ".length).dropWhile (· != ' ') with
  | ' ' :: '(' :: inside =>
    let names := commaParts (inside.takeWhile (· != ')'))
    let tuples := (inside.dropWhile (· != ')')).drop ") VALUES ".length
    (readTuples (Engine.parameters s.values) tuples).map
      (rows (names.map fun name => .text (String.ofList name)))
  | ' ' :: 'D' :: _ => some defaults
  | _ => none

/-- Names that end where they are read to end. -/
structure Separable (table : String) (columns : List Value) : Prop where
  table : ' ' ∉ table.toList
  columns : ∀ c ∈ columns, ∃ name, c = .text name ∧ ',' ∉ name.toList ∧ ')' ∉ name.toList

/-! Texts between commas, and texts in brackets. -/

private theorem splitOn_commas {part : List Char} {parts : List (List Char)}
    (apart : ∀ p ∈ part :: parts, ',' ∉ p) :
    (", ".toList.intercalate (part :: parts)).splitOn ',' = part :: parts.map (' ' :: ·) := by
  induction parts generalizing part with
  | nil =>
    rw [List.intercalate_singleton]
    exact List.splitOn_eq_singleton (apart part (List.mem_cons_self ..))
  | cons next parts ih =>
    rw [List.forall_mem_cons] at apart
    have text : ", ".toList.intercalate (part :: next :: parts) =
        part ++ ',' :: ' ' :: ", ".toList.intercalate (next :: parts) := by
      rw [List.intercalate_cons_cons, List.append_assoc]
      rfl
    rw [text, List.splitOn_append_cons_self_of_not_mem apart.1, List.splitOn_cons_eq_if_modifyHead,
      if_neg (by decide), ih apart.2]
    rfl

theorem commaParts_intercalate {parts : List (List Char)} (some : parts ≠ [])
    (apart : ∀ p ∈ parts, ',' ∉ p) : commaParts (", ".toList.intercalate parts) = parts := by
  cases parts with
  | nil => exact absurd rfl some
  | cons part parts =>
    rw [commaParts, splitOn_commas apart]
    simp [Function.comp_def]

theorem bracketed_nil : bracketed [] = [] := rfl

theorem bracketed_blank (text : List Char) : bracketed (' ' :: text) = [] := by
  rw [bracketed, List.splitOn_cons_eq_if_modifyHead, if_neg (by decide)]
  cases text.splitOn ')' <;> rfl

theorem bracketed_cons {lead inside : List Char} (front : lead = [] ∨ lead = ", ".toList)
    (apart : ')' ∉ inside) (later : List Char) :
    bracketed (lead ++ '(' :: inside ++ ')' :: later) = inside :: bracketed later := by
  have apart : ')' ∉ lead ++ '(' :: inside := by
    rcases front with rfl | rfl <;> simpa using apart
  have opens : continues (lead ++ '(' :: inside) = true := by
    rcases front with rfl | rfl <;> rfl
  have found : ((lead ++ '(' :: inside).dropWhile (· != '(')).drop 1 = inside := by
    rcases front with rfl | rfl <;> rfl
  rw [bracketed, List.splitOn_append_cons_self_of_not_mem apart, List.takeWhile_cons_of_pos opens,
    List.map_cons, found]
  rfl

/-! The texts of cells and of tuples of them. -/

def textsFrom : Nat → List (List Piece) → List (List Char)
  | _, [] => []
  | n, ps :: rest => textFrom n ps :: textsFrom (n + (boundValues ps).length) rest

private theorem textFrom_separatedBy (separator : String) (groups : List (List Piece)) (n : Nat) :
    textFrom n (separatedBy separator groups) = separator.toList.intercalate (textsFrom n groups) := by
  induction groups generalizing n with
  | nil => rfl
  | cons ps groups ih =>
    cases groups with
    | nil => simp [separatedBy, textsFrom]
    | cons qs groups =>
      rw [separatedBy_cons_cons, textFrom_append, textFrom, ih]
      simp [textsFrom]

theorem not_mem_placeholder {c : Char} (digit : c.isDigit = false) (marks : c ∉ [':', 'p', '_'])
    (n : Nat) : c ∉ placeholder n := by
  intro mem
  have mem : c ∈ [':', 'p', '_'] ++ Number.digitsOf n := mem
  rcases List.mem_append.1 mem with mem | mem
  · exact marks mem
  · rw [isDigit_of_mem_digitsOf mem] at digit
    cases digit

theorem not_mem_textFrom {c : Char} (digit : c.isDigit = false) (marks : c ∉ [':', 'p', '_'])
    {ps : List Piece} (words : ∀ s, .word s ∈ ps → c ∉ s.toList) (n : Nat) : c ∉ textFrom n ps := by
  induction ps generalizing n with
  | nil => exact List.not_mem_nil
  | cons p ps ih =>
    have later := ih fun s mem => words s (List.mem_cons_of_mem _ mem)
    cases p with
    | word s =>
      rw [textFrom, List.mem_append, not_or]
      exact ⟨words s (List.mem_cons_self ..), later n⟩
    | bind v =>
      rw [textFrom, List.mem_append, not_or]
      exact ⟨not_mem_placeholder digit marks n, later (n + 1)⟩

private theorem mem_separatedBy {separator : String} {groups : List (List Piece)} {p : Piece}
    (mem : p ∈ separatedBy separator groups) : p = .word separator ∨ ∃ ps ∈ groups, p ∈ ps := by
  induction groups with
  | nil => cases mem
  | cons ps groups ih =>
    cases groups with
    | nil => exact .inr ⟨ps, List.mem_cons_self .., mem⟩
    | cons qs groups =>
      rw [separatedBy_cons_cons, List.mem_append, List.mem_cons] at mem
      rcases mem with mem | rfl | mem
      · exact .inr ⟨ps, List.mem_cons_self .., mem⟩
      · exact .inl rfl
      · rcases ih mem with rfl | ⟨rs, hrs, mem⟩
        · exact .inl rfl
        · exact .inr ⟨rs, List.mem_cons_of_mem _ hrs, mem⟩

theorem Cell.eq_of_word_mem {cell : Cell} {s : String} (mem : .word s ∈ cell.pieces) :
    s = "DEFAULT" := by
  cases cell with
  | given v => simp [pieces] at mem
  | omitted => simpa [pieces] using mem

def cellsText (n : Nat) (cells : List Cell) : List Char :=
  textFrom n (separatedBy ", " (cells.map Cell.pieces))

theorem textFrom_tuplePieces (n : Nat) (cells : List Cell) :
    textFrom n (Content.tuplePieces cells) = '(' :: cellsText n cells ++ [')'] := by
  rw [Content.tuplePieces, textFrom_append, textFrom]
  rfl

theorem not_mem_cellsText (n : Nat) (cells : List Cell) : ')' ∉ cellsText n cells := by
  refine not_mem_textFrom rfl (by decide) (fun s mem => ?_) n
  rcases mem_separatedBy mem with same | ⟨_, hps, mem⟩
  · rw [Piece.word.inj same]
    decide
  · obtain ⟨cell, _, rfl⟩ := List.mem_map.1 hps
    rw [Cell.eq_of_word_mem mem]
    decide

theorem not_mem_cellText (n : Nat) (cell : Cell) : ',' ∉ textFrom n cell.pieces := by
  refine not_mem_textFrom rfl (by decide) (fun s mem => ?_) n
  rw [Cell.eq_of_word_mem mem]
  decide

/-! What is written is read. The values from a number on are those of the cells, and others. -/

section

variable {values : List Value}

theorem Cell.read?_textFrom {cell : Cell} {n : Nat} {others : List Value}
    (bound : values.drop n = cell.value?.toList ++ others) :
    Cell.read? (Engine.parameters values) (textFrom n cell.pieces) = some cell := by
  cases cell with
  | omitted => rfl
  | given v =>
    have here : values[n]? = some v := by
      rw [← List.head?_drop, bound]
      rfl
    have text : textFrom n (given v).pieces = ':' :: parameterName n := by
      simp [pieces, textFrom, placeholder]
    have found := get?_parameters here
    rw [parameterKey] at found
    rw [text, Cell.read?, found]
    rfl

private theorem mapM_read?_textsFrom {cells : List Cell} {n : Nat} {others : List Value}
    (bound : values.drop n = cells.filterMap Cell.value? ++ others) :
    (textsFrom n (cells.map Cell.pieces)).mapM (Cell.read? (Engine.parameters values)) = some cells := by
  induction cells generalizing n with
  | nil => rfl
  | cons cell cells ih =>
    have bound : values.drop n = cell.value?.toList ++ (cells.filterMap Cell.value? ++ others) := by
      rw [bound]
      cases cell <;> rfl
    have later : values.drop (n + (boundValues cell.pieces).length) =
        cells.filterMap Cell.value? ++ others := by
      rw [Cell.boundValues_pieces, ← List.drop_drop, bound, List.drop_left]
    rw [List.map_cons, textsFrom, List.mapM_cons, Cell.read?_textFrom bound, ih later]
    rfl

private theorem readCells_cellsText {cells : List Cell} (some : cells ≠ []) {n : Nat} {others : List Value}
    (bound : values.drop n = cells.filterMap Cell.value? ++ others) :
    readCells (Engine.parameters values) (cellsText n cells) = .some cells := by
  have texts : textsFrom n (cells.map Cell.pieces) ≠ [] := by
    cases cells with
    | nil => exact absurd rfl some
    | cons cell cells => exact List.cons_ne_nil _ _
  have apart : ∀ text ∈ textsFrom n (cells.map Cell.pieces), ',' ∉ text := by
    clear bound some texts
    induction cells generalizing n with
    | nil => exact List.forall_mem_nil _
    | cons cell cells ih => exact List.forall_mem_cons.2 ⟨not_mem_cellText n cell, ih⟩
  rw [readCells, cellsText, textFrom_separatedBy, commaParts_intercalate texts apart]
  exact mapM_read?_textsFrom bound

private theorem readTuples_textFrom {tuples : List (List Cell)} (some : tuples ≠ [])
    (filled : ∀ cells ∈ tuples, cells ≠ []) {n : Nat} {others : List Value}
    (bound : values.drop n = tuples.flatMap (List.filterMap Cell.value?) ++ others)
    {lead : List Char} (front : lead = [] ∨ lead = ", ".toList) {after : List Char}
    (ends : bracketed after = []) :
    readTuples (Engine.parameters values)
      (lead ++ textFrom n (separatedBy ", " (tuples.map Content.tuplePieces)) ++ after) = .some tuples := by
  induction tuples generalizing n lead with
  | nil => exact absurd rfl some
  | cons cells tuples ih =>
    rw [List.forall_mem_cons] at filled
    rw [List.flatMap_cons, List.append_assoc] at bound
    have first := readCells_cellsText filled.1 bound
    have apart := not_mem_cellsText n cells
    cases tuples with
    | nil =>
      have text : lead ++ textFrom n (separatedBy ", " ([cells].map Content.tuplePieces)) ++ after =
          lead ++ '(' :: cellsText n cells ++ ')' :: after := by
        simp [separatedBy, textFrom_tuplePieces]
      rw [readTuples, text, bracketed_cons front apart, ends, List.mapM_cons, first]
      rfl
    | cons next tuples =>
      have text :
          lead ++ textFrom n (separatedBy ", " ((cells :: next :: tuples).map Content.tuplePieces)) ++
            after =
          lead ++ '(' :: cellsText n cells ++ ')' ::
            (", ".toList ++ textFrom (n + (cells.filterMap Cell.value?).length)
              (separatedBy ", " ((next :: tuples).map Content.tuplePieces)) ++ after) := by
        rw [List.map_cons, List.map_cons, separatedBy_cons_cons, textFrom_append, textFrom,
          Content.boundValues_tuplePieces, textFrom_tuplePieces]
        simp
      have later : values.drop (n + (cells.filterMap Cell.value?).length) =
          (next :: tuples).flatMap (List.filterMap Cell.value?) ++ others := by
        rw [← List.drop_drop, bound, List.drop_left]
      have rest := ih (List.cons_ne_nil _ _) filled.2 later (.inr rfl)
      rw [readTuples] at rest
      rw [readTuples, text, bracketed_cons front apart, List.mapM_cons, first, rest]
      rfl

end

theorem not_mem_intercalate {c : Char} {separator : List Char} (outside : c ∉ separator)
    {parts : List (List Char)} (apart : ∀ p ∈ parts, c ∉ p) : c ∉ separator.intercalate parts := by
  induction parts with
  | nil => exact List.not_mem_nil
  | cons p parts ih =>
    rw [List.forall_mem_cons] at apart
    cases parts with
    | nil => simpa using apart.1
    | cons q parts =>
      rw [List.intercalate_cons_cons, List.mem_append, List.mem_append, not_or, not_or]
      exact ⟨⟨apart.1, outside⟩, ih apart.2⟩

theorem Content.read?_rows {table : String} {columns : List Value} (names : Separable table columns)
    (some : columns ≠ []) {s : Statement} {tail : List Char} {tuples : List (List Cell)}
    (text : s.text.toList = (front table columns).toList ++ tail)
    (found : readTuples (Engine.parameters s.values) tail = .some tuples) :
    Content.read? s = .some (.rows columns tuples) := by
  let shown := ", ".toList.intercalate (columns.map fun c => c.shown.toList)
  have shape : ∀ c ∈ columns, ',' ∉ c.shown.toList ∧ ')' ∉ c.shown.toList := by
    intro c hc
    obtain ⟨name, rfl, comma, bracket⟩ := names.columns c hc
    exact ⟨comma, bracket⟩
  have inside : ')' ∉ shown :=
    not_mem_intercalate (by decide) (List.forall_mem_map.2 fun c hc => (shape c hc).2)
  have chars : s.text.toList.drop "INSERT INTO ".length =
      table.toList ++ ' ' :: '(' :: (shown ++ ')' :: (" VALUES ".toList ++ tail)) := by
    have all : s.text.toList = "INSERT INTO ".toList ++
        (table.toList ++ ' ' :: '(' :: (shown ++ ')' :: (" VALUES ".toList ++ tail))) := by
      rw [text, front]
      simp [String.toList_intercalate, shown, Function.comp_def]
    rw [all]
    rfl
  have behind : (s.text.toList.drop "INSERT INTO ".length).dropWhile (· != ' ') =
      ' ' :: '(' :: (shown ++ ')' :: (" VALUES ".toList ++ tail)) := by
    rw [chars, List.dropWhile_append_of_pos]
    · rfl
    · intro c hc
      exact bne_iff_ne.2 fun same => names.table (same ▸ hc)
  have other : ∀ c ∈ shown, (c != ')') = true := fun c hc => bne_iff_ne.2 fun same => inside (same ▸ hc)
  have first : (shown ++ ')' :: (" VALUES ".toList ++ tail)).takeWhile (· != ')') = shown := by
    rw [List.takeWhile_append_of_pos other]
    simp
  have rest : ((shown ++ ')' :: (" VALUES ".toList ++ tail)).dropWhile (· != ')')).drop
      ") VALUES ".length = tail := by
    rw [List.dropWhile_append_of_pos other]
    rfl
  have parts : commaParts shown = columns.map fun c => c.shown.toList := by
    apply commaParts_intercalate
    · simpa using some
    · exact List.forall_mem_map.2 fun c hc => (shape c hc).1
  have same : (columns.map fun c => c.shown.toList).map (fun name => Value.text (String.ofList name)) =
      columns := by
    rw [List.map_map]
    refine (List.map_congr_left fun c hc => ?_).trans (List.map_id _)
    obtain ⟨name, rfl, _⟩ := names.columns c hc
    exact congrArg Value.text String.ofList_toList
  rw [Content.read?, behind]
  simp only [first, rest, parts, same, found, Option.map_some]

/-! What an insertion of rows tells. -/

/-- A statement that inserts rows under the columns of all of them. -/
structure Aligned (table : String) (rows : List Mapping) (s : Statement) : Prop where
  /-- The columns are the keys of the rows in the order of first mention, each of them once. -/
  columns : (columnsOf rows).Nodup ∧ ∀ c, c ∈ columnsOf rows ↔ ∃ row ∈ rows, c ∈ row.keys
  /-- There is a tuple for each row, with a cell for each column. -/
  content : Content.ofRows rows = .rows (columnsOf rows) (tuplesOf rows)
  written : ∃ keys returning, s = Insert.written table rows keys returning
  omitted : ∀ row ∈ rows, ∀ c ∈ columnsOf rows, row.cell c = .omitted ↔ c ∉ row.keys
  given : ∀ row ∈ rows, ∀ e ∈ row.entries, row.cell e.1 = .given (storedForm e.2)
  count : s.values.length = (rows.map OrderedMap.size).sum
  /-- Behind the columns each row is read back. -/
  reread : ∃ tail tuples, s.text.toList = (Content.front table (columnsOf rows)).toList ++ tail ∧
    readTuples (Engine.parameters s.values) tail = some tuples ∧
    List.Forall₂ (fun row cells => (Content.rowUnder (columnsOf rows) cells).Perm row.storedEntries)
      rows tuples
  /-- The columns are read back too, if their names do not hide where they end. -/
  named : Separable table (columnsOf rows) → Content.read? s = some (.ofRows rows)

section

variable {table : String} {rows : List Mapping}

theorem bracketed_suffix (columns keys : List Value) (returning : Bool) (n : Nat) :
    bracketed (textFrom n (Insert.conflicting columns keys ++ Insert.returningClause returning)) = [] := by
  unfold Insert.conflicting Insert.returningClause
  split
  · cases returning
    · exact bracketed_nil
    · exact bracketed_blank _
  · simp only [List.cons_append, textFrom, String.toList_append]
    exact bracketed_blank _

private theorem length_cells {row : Mapping} {columns : List Value} (distinct : columns.Nodup)
    (texts : ∀ c ∈ columns, c.isText) (covered : ∀ key ∈ row.keys, key ∈ columns) :
    ((columns.map row.cell).filterMap Cell.value?).length = row.size := by
  have same : (columns.map row.cell).filterMap Cell.value? =
      (Content.rowUnder columns (columns.map row.cell)).map (·.2) := by
    rw [Content.rowUnder_map, List.filterMap_map, List.map_filterMap]
    simp [Function.comp_def]
  have perm := (Content.rowUnder_perm distinct texts covered).length_eq
  rw [same, List.length_map, perm, Mapping.storedEntries, List.length_map]
  rfl

theorem boundValues_rows (columns : List Value) (tuples : List (List Cell)) :
    boundValues ((Content.rows columns tuples).pieces table) =
      tuples.flatMap (List.filterMap Cell.value?) := by
  rw [Content.pieces, boundValues, boundValues_separatedBy, List.flatMap_map]
  simp only [Content.boundValues_tuplePieces]

section

variable (key : ∃ row ∈ rows, row.entries ≠ []) (table : String) (keys : List Value) (returning : Bool)
include key

theorem pieces_written :
    Insert.written table rows keys returning =
      .ofPieces ((Content.rows (columnsOf rows) (tuplesOf rows)).pieces table ++
        (Insert.conflicting (columnsOf rows) keys ++ Insert.returningClause returning)) := by
  rw [Insert.written, Content.ofRows_of_key key]

theorem values_written :
    (Insert.written table rows keys returning).values =
      (tuplesOf rows).flatMap (List.filterMap Cell.value?) := by
  rw [pieces_written key, Statement.ofPieces, boundValues_append, boundValues_rows,
    Insert.boundValues_suffix, List.append_nil]

private theorem text_written :
    ∃ tail, (Insert.written table rows keys returning).text.toList =
        (Content.front table (columnsOf rows)).toList ++ tail ∧
      readTuples (Engine.parameters (Insert.written table rows keys returning).values) tail =
        some (tuplesOf rows) := by
  refine ⟨textFrom 0 (separatedBy ", " ((tuplesOf rows).map Content.tuplePieces)) ++ textFrom
    ((tuplesOf rows).flatMap (List.filterMap Cell.value?)).length
      (Insert.conflicting (columnsOf rows) keys ++ Insert.returningClause returning), ?_, ?_⟩
  · rw [pieces_written key, Statement.ofPieces, String.toList_ofList, textFrom_append,
      boundValues_rows, Nat.zero_add, Content.pieces, textFrom, List.append_assoc]
  · have any : tuplesOf rows ≠ [] := by
      obtain ⟨row, hrow, _⟩ := key
      exact List.ne_nil_of_mem (List.mem_map_of_mem hrow)
    have filled : ∀ cells ∈ tuplesOf rows, cells ≠ [] :=
      List.forall_mem_map.2 fun _ _ none => columnsOf_ne_nil key (List.map_eq_nil_iff.1 none)
    have bound : (Insert.written table rows keys returning).values.drop 0 =
        (tuplesOf rows).flatMap (List.filterMap Cell.value?) ++ [] := by
      rw [List.drop_zero, List.append_nil, values_written key]
    exact readTuples_textFrom any filled bound (.inl rfl) (bracketed_suffix ..)

private theorem aligned_of_written (texts : ∀ row ∈ rows, ∀ key ∈ row.keys, key.isText) :
    Aligned table rows (Insert.written table rows keys returning) := by
  have known := isText_columnsOf texts
  have distinct := nodup_columnsOf texts
  have covered : ∀ row ∈ rows, ∀ key ∈ row.keys, key ∈ columnsOf rows := fun row hrow key hkey =>
    (mem_columnsOf texts).2 ⟨row, hrow, hkey⟩
  obtain ⟨tail, text, read⟩ := text_written key table keys returning
  exact {
    columns := ⟨distinct, fun _ => mem_columnsOf texts⟩
    content := Content.ofRows_of_key key
    written := ⟨keys, returning, rfl⟩
    omitted := fun _ _ c hc => Mapping.cell_eq_omitted_iff (known c hc)
    given := fun row hrow e he =>
      Mapping.cell_of_mem (texts row hrow e.1 (List.mem_map_of_mem he)) he
    count := by
      rw [values_written key, List.length_flatMap, tuplesOf, List.map_map]
      refine congrArg List.sum (List.map_congr_left fun row hrow => ?_)
      exact length_cells distinct known (covered row hrow)
    reread := by
      refine ⟨tail, tuplesOf rows, text, read, ?_⟩
      rw [tuplesOf, List.forall₂_map_right_iff, List.forall₂_same]
      exact fun row hrow => Content.rowUnder_perm distinct known (covered row hrow)
    named := by
      intro names
      rw [Content.ofRows_of_key key]
      exact Content.read?_rows names (columnsOf_ne_nil key) text read }

end

/-- Rows with a key among them are inserted exactly if all of them can be stored, under the columns of
all of them, and can be told from what is sent. -/
theorem rows_aligned (key : ∃ row ∈ rows, row.entries ≠ []) (table : String) (keys : Value)
    (returning : Bool) :
    ((∃ s, Insert.statement table (.list (rows.map OrderedMap.toValue)) keys returning = .ok s) ↔
      (∀ row ∈ rows, row.Storable) ∧
        ∃ target, Insert.conflictTarget keys = .ok target ∧ ∀ key ∈ target, key.isText) ∧
    ∀ s, Insert.statement table (.list (rows.map OrderedMap.toValue)) keys returning = .ok s →
      Aligned table rows s := by
  have any : rows ≠ [] := List.ne_nil_of_mem key.choose_spec.1
  constructor
  · simp only [Insert.statement_mappings any]
    constructor
    · rintro ⟨_, storable, target, known, texts, _⟩
      exact ⟨storable, target, known, texts⟩
    · rintro ⟨storable, target, known, texts⟩
      exact ⟨_, storable, target, known, texts, rfl⟩
  · intro s h
    obtain ⟨storable, target, _, _, rfl⟩ := (Insert.statement_mappings any).1 h
    exact aligned_of_written key table target returning (texts_of_storable storable)

end

def members : List Mapping :=
  [.ofEntries [(.text "name", .text "ada"), (.text "age", .null)], .empty,
    .ofEntries [(.text "tags", .dict [(.text "a", .text "b")]), (.text "name", .text "bob")]]

def membersInserted : Statement :=
  ⟨"INSERT INTO users (name, age, tags) VALUES (:p_0, :p_1, DEFAULT), " ++
    "(DEFAULT, DEFAULT, DEFAULT), (:p_2, DEFAULT, :p_3) RETURNING *",
    [.text "ada", .null, .text "bob", .text "\x7b\"a\": \"b\"\x7d"]⟩

set_option maxRecDepth 4000 in
theorem rows_aligned_members :
    (∃ row ∈ members, row.entries ≠ []) ∧
      Insert.statement "users" (.list (members.map OrderedMap.toValue)) .null true = .ok membersInserted ∧
      Separable "users" (columnsOf members) ∧ Aligned "users" members membersInserted := by
  have key : ∃ row ∈ members, row.entries ≠ [] := ⟨_, List.mem_cons_self .., List.cons_ne_nil _ _⟩
  have names : Separable "users" (columnsOf members) := by
    refine ⟨by decide, ?_⟩
    change ∀ c ∈ [Value.text "name", .text "age", .text "tags"], _
    simp
  have rendered : Insert.statement "users" (.list (members.map OrderedMap.toValue)) .null true =
      .ok membersInserted := rfl
  exact ⟨key, rendered, names, (rows_aligned key "users" .null true).2 membersInserted rendered⟩

end RecordMapper.Sql
