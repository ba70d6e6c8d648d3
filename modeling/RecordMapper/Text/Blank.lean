/-!
Blank characters: the Unicode white space that is dropped at both ends of a number or of a stored
name, and the narrower set that number fields of a profile ignore.
-/
namespace RecordMapper.Text

def isSpace (c : Char) : Bool :=
  let n := c.toNat
  (0x9 ≤ n && n ≤ 0xd) || n == 0x20 || n == 0x85 || n == 0xa0 || n == 0x1680 ||
    (0x2000 ≤ n && n ≤ 0x200a) || n == 0x2028 || n == 0x2029 || n == 0x202f || n == 0x205f ||
    n == 0x3000

/-- A blank is white space or one of the four information separators. -/
def isBlank (c : Char) : Bool :=
  isSpace c || (0x1c ≤ c.toNat && c.toNat ≤ 0x1f)

def dropEnds (p : Char → Bool) (cs : List Char) : List Char :=
  ((cs.dropWhile p).reverse.dropWhile p).reverse

def trim (s : String) : String :=
  String.ofList (dropEnds isBlank s.toList)

@[simp] theorem dropEnds_nil (p : Char → Bool) : dropEnds p [] = [] := rfl

end RecordMapper.Text
