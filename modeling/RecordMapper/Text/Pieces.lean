/-!
Cutting a text at every occurrence of a mark, from left to right and without overlap, and putting
another text in place of the mark.
-/
namespace RecordMapper.Text

/-- The pieces around a mark; the first `skip` characters belong to a mark already found. -/
def piecesFrom (mark : List Char) : Nat → List Char → List (List Char)
  | _, [] => [[]]
  | skip + 1, _ :: cs => piecesFrom mark skip cs
  | 0, c :: cs =>
    if mark.isPrefixOf (c :: cs) then [] :: piecesFrom mark (mark.length - 1) cs
    else (piecesFrom mark 0 cs).modifyHead (c :: ·)

def pieces (mark s : String) : List (List Char) :=
  piecesFrom mark.toList 0 s.toList

def substitute (mark replacement s : String) : String :=
  String.ofList (replacement.toList.intercalate (pieces mark s))

theorem piecesFrom_ne_nil (mark : List Char) (skip : Nat) (cs : List Char) :
    piecesFrom mark skip cs ≠ [] := by
  induction cs generalizing skip with
  | nil => simp [piecesFrom]
  | cons c cs ih =>
    cases skip with
    | zero =>
      rw [piecesFrom]
      split
      · simp
      · cases h : piecesFrom mark 0 cs with
        | nil => exact absurd h (ih 0)
        | cons p ps => simp
    | succ skip => exact ih skip

/-- Every line end, be it a carriage return, a line feed or both, as one line feed. -/
def unifyLineEnds : List Char → List Char
  | [] => []
  | '\r' :: '\n' :: cs => '\n' :: unifyLineEnds cs
  | c :: cs => (if c = '\r' then '\n' else c) :: unifyLineEnds cs

def joinWith (separator : String) (parts : List String) : String :=
  separator.intercalate parts

end RecordMapper.Text
