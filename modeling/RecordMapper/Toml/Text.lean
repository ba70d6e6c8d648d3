import RecordMapper.Text.DecimalDigit

/-!
The texts of a TOML document: white space, comments, keys and strings. Every reader takes the rest
of the document and returns what it read with what is left, or nothing if the document is faulty.
-/
namespace RecordMapper.Toml

def isSpace (c : Char) : Bool := c == ' ' || c == '\t'

def isSpaceOrNewline (c : Char) : Bool := isSpace c || c == '\n'

def skipSpace (cs : List Char) : List Char := cs.dropWhile isSpace

def isControl (c : Char) : Bool := (c.toNat < 0x20 || c.toNat == 0x7f) && c != '\t'

def isControlNotNewline (c : Char) : Bool := isControl c && c != '\n'

def skipComment : List Char → Option (List Char)
  | '#' :: cs =>
    let (comment, rest) := cs.span (· != '\n')
    if comment.any isControl then none else some rest
  | cs => some cs

def skipBetween : Nat → List Char → Option (List Char)
  | 0, cs => some cs
  | steps + 1, cs => do
    let rest ← skipComment (cs.dropWhile isSpaceOrNewline)
    if rest.length == cs.length then return rest
    skipBetween steps rest

def isBareKey (c : Char) : Bool := c.isAlphanum || c == '-' || c == '_'

def hexChar? (width : Nat) (cs : List Char) : Option Char := do
  let digits := cs.take width
  if digits.length < width then none
  let n ← digits.foldlM (fun n c => (Text.hexValue? c).map (16 * n + ·)) 0
  if n.isValidChar then some (Char.ofNat n) else none

def shortEscape? : Char → Option Char
  | 'b' => some '\x08'
  | 't' => some '\t'
  | 'n' => some '\n'
  | 'f' => some '\x0c'
  | 'r' => some '\r'
  | '"' => some '"'
  | '\\' => some '\\'
  | _ => none

def lineEnd? (cs : List Char) : Option Nat :=
  let (space, rest) := cs.span isSpace
  match rest with
  | [] => some space.length
  | '\n' :: rest => some (space.length + 1 + (rest.takeWhile isSpaceOrNewline).length)
  | _ => none

def readEscape (multiline : Bool) (cs : List Char) : Option (List Char × Nat) :=
  match cs with
  | [] => none
  | c :: rest =>
    if multiline && isSpaceOrNewline c then (lineEnd? cs).map fun n => ([], n)
    else if c == 'u' then (hexChar? 4 rest).map fun d => ([d], 5)
    else if c == 'U' then (hexChar? 8 rest).map fun d => ([d], 9)
    else (shortEscape? c).map fun d => ([d], 1)

/-- The characters of a string up to its closing quotes; the first `used` belong to an escape that
was read before. -/
def readBasic (multiline : Bool) : Nat → List Char → Option (List Char × List Char)
  | _, [] => none
  | used + 1, _ :: cs => readBasic multiline used cs
  | 0, '"' :: cs =>
    if !multiline then some ([], cs)
    else match cs with
      | '"' :: '"' :: rest => some ([], rest)
      | _ => (readBasic multiline 0 cs).map fun (text, rest) => ('"' :: text, rest)
  | 0, '\\' :: cs => do
    let (out, used) ← readEscape multiline cs
    let (text, rest) ← readBasic multiline used cs
    return (out ++ text, rest)
  | 0, c :: cs =>
    if (if multiline then isControlNotNewline c else isControl c) then none
    else (readBasic multiline 0 cs).map fun (text, rest) => (c :: text, rest)

def readLiteral (multiline : Bool) : List Char → Option (List Char × List Char)
  | [] => none
  | '\'' :: cs =>
    if !multiline then some ([], cs)
    else match cs with
      | '\'' :: '\'' :: rest => some ([], rest)
      | _ => (readLiteral multiline cs).map fun (text, rest) => ('\'' :: text, rest)
  | c :: cs =>
    if (if multiline then isControlNotNewline c else isControl c) then none
    else (readLiteral multiline cs).map fun (text, rest) => (c :: text, rest)

/-- One or two quotes right behind the closing quotes still belong to the string. -/
def trailingQuotes (quote : Char) (text rest : List Char) : List Char × List Char :=
  match rest with
  | c :: d :: more =>
    if c == quote && d == quote then (text ++ [quote, quote], more)
    else if c == quote then (text ++ [quote], d :: more)
    else (text, rest)
  | [c] => if c == quote then (text ++ [quote], []) else (text, rest)
  | [] => (text, rest)

/-- A line end right behind the opening quotes does not belong to the string. -/
def dropNewline : List Char → List Char
  | '\n' :: cs => cs
  | cs => cs

def readString : List Char → Option (String × List Char)
  | '"' :: '"' :: '"' :: cs => do
    let (text, rest) ← readBasic true 0 (dropNewline cs)
    let (text, rest) := trailingQuotes '"' text rest
    return (String.ofList text, rest)
  | '\'' :: '\'' :: '\'' :: cs => do
    let (text, rest) ← readLiteral true (dropNewline cs)
    let (text, rest) := trailingQuotes '\'' text rest
    return (String.ofList text, rest)
  | '"' :: cs => (readBasic false 0 cs).map fun (text, rest) => (String.ofList text, rest)
  | '\'' :: cs => (readLiteral false cs).map fun (text, rest) => (String.ofList text, rest)
  | _ => none

def readKeyPart (cs : List Char) : Option (String × List Char) :=
  match cs with
  | '"' :: cs => (readBasic false 0 cs).map fun (text, rest) => (String.ofList text, rest)
  | '\'' :: cs => (readLiteral false cs).map fun (text, rest) => (String.ofList text, rest)
  | cs =>
    let (key, rest) := cs.span isBareKey
    if key.isEmpty then none else some (String.ofList key, rest)

def readKeyParts : Nat → List Char → Option (List String × List Char)
  | 0, _ => none
  | steps + 1, cs => do
    let (part, rest) ← readKeyPart cs
    match skipSpace rest with
    | '.' :: rest =>
      let (parts, rest) ← readKeyParts steps (skipSpace rest)
      return (part :: parts, rest)
    | rest => return ([part], rest)

def readKey (cs : List Char) : Option (List String × List Char) :=
  readKeyParts (cs.length + 1) cs

end RecordMapper.Toml
