import RecordMapper.Proofs.Sql.Pieces

/-!
Reading placeholders back. A text is read from left to right: a colon, `p_` and a digit begin a
placeholder, which takes all digits that follow; any other character stands for itself. Main
statement: if no word of a row of pieces has a colon and no digit follows a value, the text of the
pieces is read back as these pieces, with the values numbered in their order.
-/
namespace RecordMapper.Sql

inductive Lexeme
  | char (c : Char)
  | placeholder (name : List Char)

def parameterName? : List Char → Option (List Char)
  | 'p' :: '_' :: cs =>
    let digits := cs.takeWhile Char.isDigit
    if digits.isEmpty then none else some ('p' :: '_' :: digits)
  | _ => none

def lexFrom : (skip : Nat) → List Char → List Lexeme
  | _, [] => []
  | skip + 1, _ :: cs => lexFrom skip cs
  | 0, c :: cs =>
    match if c = ':' then parameterName? cs else none with
    | some name => .placeholder name :: lexFrom name.length cs
    | none => .char c :: lexFrom 0 cs

def lex (text : List Char) : List Lexeme := lexFrom 0 text

def placeholders (text : List Char) : List (List Char) :=
  (lex text).filterMap fun
    | .placeholder name => some name
    | .char _ => none

def startsWithDigit (text : List Char) : Bool := text.head?.any Char.isDigit

private theorem takeWhile_of_not_startsWithDigit {text : List Char} (h : startsWithDigit text = false) :
    text.takeWhile Char.isDigit = [] := by
  cases text with
  | nil => rfl
  | cons c cs =>
    have : c.isDigit = false := h
    simp [this]

theorem isDigit_of_mem_digitsOf {n : Nat} {c : Char} (h : c ∈ Number.digitsOf n) : c.isDigit = true :=
  Nat.isDigit_of_mem_toDigits (by decide) (by decide) h

private theorem digitsOf_ne_nil (n : Nat) : Number.digitsOf n ≠ [] := Nat.toDigits_ne_nil

theorem parameterName_injective {m n : Nat} (h : parameterName m = parameterName n) : m = n := by
  have digits : Number.digitsOf m = Number.digitsOf n := List.cons.inj (List.cons.inj h).2 |>.2
  have value := congrArg (Nat.ofDigitChars 10 · 0) digits
  simpa only [Number.digitsOf, Nat.ofDigitChars_ten_toDigits] using value

private theorem lexFrom_skip (skipped rest : List Char) :
    lexFrom skipped.length (skipped ++ rest) = lexFrom 0 rest := by
  induction skipped with
  | nil => rfl
  | cons c cs ih => exact ih

private theorem lex_append {word : List Char} (h : ':' ∉ word) (rest : List Char) :
    lex (word ++ rest) = word.map .char ++ lex rest := by
  induction word with
  | nil => rfl
  | cons c cs ih =>
    have other : c ≠ ':' := fun h' => h (h' ▸ List.mem_cons_self ..)
    have tail := ih fun h' => h (List.mem_cons_of_mem _ h')
    unfold lex at tail ⊢
    rw [List.cons_append, lexFrom, if_neg other]
    simp [tail]

private theorem lex_placeholder (n : Nat) {rest : List Char} (h : startsWithDigit rest = false) :
    lex (placeholder n ++ rest) = .placeholder (parameterName n) :: lex rest := by
  have digits : (Number.digitsOf n ++ rest).takeWhile Char.isDigit = Number.digitsOf n := by
    rw [List.takeWhile_append_of_pos fun c hc => isDigit_of_mem_digitsOf hc,
      takeWhile_of_not_startsWithDigit h, List.append_nil]
  have name : parameterName? (parameterName n ++ rest) = some (parameterName n) := by
    simp only [parameterName, List.cons_append, parameterName?, digits, List.isEmpty_iff,
      digitsOf_ne_nil, if_false]
  unfold lex
  rw [placeholder, List.cons_append, lexFrom, if_pos rfl, name]
  simp only [lexFrom_skip]

/-- Is the text of the pieces empty, or does it begin with something that is no digit? -/
def Opens : List Piece → Prop
  | [] => True
  | .word s :: _ => s.toList ≠ [] ∧ startsWithDigit s.toList = false
  | .bind _ :: _ => False

abbrev Plain (s : String) : Prop := ':' ∉ s.toList

/-- All words are plain, and no digit follows a value. -/
def Sealed : List Piece → Prop
  | [] => True
  | .word s :: ps => Plain s ∧ Sealed ps
  | .bind _ :: ps => Opens ps ∧ Sealed ps

theorem opens_append {ps qs : List Piece} (hp : Opens ps) (hq : Opens qs) : Opens (ps ++ qs) := by
  cases ps with
  | nil => exact hq
  | cons p ps => cases p <;> exact hp

theorem sealed_append {ps qs : List Piece} (hp : Sealed ps) (hq : Sealed qs) (opens : Opens qs) :
    Sealed (ps ++ qs) := by
  induction ps with
  | nil => exact hq
  | cons p ps ih =>
    cases p with
    | word s => exact ⟨hp.1, ih hp.2⟩
    | bind v => exact ⟨opens_append hp.1 opens, ih hp.2⟩

private theorem startsWithDigit_textFrom {ps : List Piece} (h : Opens ps) (n : Nat) :
    startsWithDigit (textFrom n ps) = false := by
  cases ps with
  | nil => rfl
  | cons p ps =>
    cases p with
    | bind v => cases h
    | word s =>
      obtain ⟨some, digit⟩ := h
      cases text : s.toList with
      | nil => exact absurd text some
      | cons c cs =>
        rw [text] at digit
        rw [textFrom, text]
        exact digit

/-- What pieces are read back as, if the first value has a given number. -/
def numbered : Nat → List Piece → List Lexeme
  | _, [] => []
  | n, .word s :: ps => s.toList.map .char ++ numbered n ps
  | n, .bind _ :: ps => .placeholder (parameterName n) :: numbered (n + 1) ps

theorem lex_textFrom {ps : List Piece} (h : Sealed ps) (n : Nat) :
    lex (textFrom n ps) = numbered n ps := by
  induction ps generalizing n with
  | nil => rfl
  | cons p ps ih =>
    cases p with
    | word s => rw [textFrom, numbered, lex_append h.1, ih h.2]
    | bind v => rw [textFrom, numbered, lex_placeholder n (startsWithDigit_textFrom h.1 _), ih h.2]

/-- The names of the placeholders are the numbers of the values in their order. -/
theorem placeholders_textFrom {ps : List Piece} (h : Sealed ps) (n : Nat) :
    placeholders (textFrom n ps) =
      (List.range' n (boundValues ps).length).map parameterName := by
  rw [placeholders, lex_textFrom h]
  clear h
  induction ps generalizing n with
  | nil => rfl
  | cons p ps ih =>
    cases p with
    | word s =>
      have none : (s.toList.map Lexeme.char).filterMap (fun
          | .placeholder name => some name
          | .char _ => none) = ([] : List (List Char)) := by
        simp
      rw [numbered, List.filterMap_append, none]
      exact ih n
    | bind v =>
      simp only [numbered, boundValues, List.length_cons, List.range'_succ, List.map_cons]
      rw [← ih (n + 1)]
      rfl

end RecordMapper.Sql
