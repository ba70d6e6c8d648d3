import RecordMapper.OrderedMap
import RecordMapper.Value.Inner

/-!
Equality of values, which is the equality of contents: numbers of all kinds are equal when they
denote the same number, truth values count as zero and one, and the order of the entries of a map or
of the members of a set does not matter. A non-number equals itself only, and a signaling one may be
compared with itself only. A record equals itself at once; two records are equal when they are of one
class and their attributes are equal, which has no answer if it hangs on the two records again.
-/
namespace RecordMapper

open Number

namespace Value

/-- Why there is no answer whether two values are equal. -/
inductive Incomparable
  /-- It hangs on a signaling non-number. -/
  | signaling
  /-- It hangs on itself. -/
  | endless
deriving DecidableEq, Repr

abbrev Verdict := Except Incomparable Bool

/-- The number that a value denotes; truth values count as zero and one. -/
def number? : Value → Option Extended
  | bool b => some (.finite (.ofInt (if b then 1 else 0)))
  | int n => some (.finite (.ofInt n))
  | float x => some x.toExtended
  | decimal x => some x.toExtended
  | _ => none

def mark? : Value → Option Nat
  | float (.nan mark) | decimal (.nan _ _ _ mark) => some mark
  | _ => none

/-- Is the value a non-number that may not be compared? -/
def isSignaling : Value → Bool
  | decimal (.nan _ signaling _ _) => signaling
  | _ => false

/-- Equality of numbers. A non-number is found again by its mark and equals nothing else; there is
no answer for a signaling one. Values that are no numbers are not equal. -/
def equalNumbers (v w : Value) : Verdict :=
  match v.number?, w.number? with
  | some p, some q =>
    if v.mark?.isSome && v.mark? == w.mark? then .ok true
    else if v.isSignaling || w.isSignaling then .error .signaling
    else .ok (p.same q)
  | _, _ => .ok false

mutual

def equalBy (records : Value → Value → Verdict) : Value → Value → Verdict
  | null, null => .ok true
  | undefined, undefined => .ok true
  | object, object => .ok true
  | int m, int n => .ok (m == n)
  | text s, text t => .ok (s == t)
  | looseText s, looseText t => .ok (s == t)
  | bytes s, bytes t => .ok (s == t)
  | uuid s, uuid t => .ok (s == t)
  | date y m d, date y' m' d' => .ok (y == y' && m == m' && d == d')
  | callable f, callable g => .ok (f == g)
  | relation r, relation s => .ok (r == s)
  | list xs, list ys => if xs.length == ys.length then equalItems records xs ys else .ok false
  | tuple xs, tuple ys => equalItems records xs ys
  | set _ xs, set _ ys => .ok (xs.length == ys.length && allOccur records xs ys)
  | dict es, dict fs => if es.length == fs.length then equalEntries records es fs else .ok false
  | record c identity es, w => records (record c identity es) w
  | reference c n, w => records (reference c n) w
  | v, w => equalNumbers v w
termination_by structural v => v

def equalItems (records : Value → Value → Verdict) : List Value → List Value → Verdict
  | [], [] => .ok true
  | x :: xs, y :: ys =>
    match equalBy records x y with
    | .ok true => equalItems records xs ys
    | r => r
  | _, _ => .ok false
termination_by structural xs => xs

def allOccur (records : Value → Value → Verdict) : List Value → List Value → Bool
  | [], _ => true
  | x :: xs, ys =>
    ys.any (fun y => equalBy records x y matches .ok true) && allOccur records xs ys
termination_by structural xs => xs

def equalEntries (records : Value → Value → Verdict) : Entries → Entries → Verdict
  | [], _ => .ok true
  | (k, v) :: es, fs =>
    match fs.find? fun f => equalBy records k f.1 matches .ok true with
    | none => .ok false
    | some f =>
      match equalBy records v f.2 with
      | .ok true => equalEntries records es fs
      | r => r
termination_by structural es => es

end

/-- Equality of records. There is no answer if so many comparisons inside one another do not settle
it. -/
def equalRecords (table : RecordTable) : (depth : Nat) → Value → Value → Verdict
  | 0, _, _ => .error .endless
  | depth + 1, v, w =>
    match v.record? table, w.record? table with
    | some (c, m, es), some (d, n, fs) =>
      if m.isSome && m == n then .ok true
      else if c.id == d.id && es.length == fs.length then
        equalEntries (equalRecords table depth) es fs
      else .ok false
    | _, _ => .ok false

/-- Equality of contents. Of more comparisons inside one another than there are pairs of records, two
are of the same pair, so that there is no end to them. -/
def equality (v w : Value) : Verdict :=
  let values := v.inner ++ w.inner
  let count := recordCount values
  equalBy (equalRecords (recordTable values) (count * count + 1)) v w

def same (v w : Value) : Bool := v.equality w matches .ok true

instance : BEq Value := ⟨same⟩

theorem beq_eq (v w : Value) : (v == w) = v.same w := rfl

@[simp] theorem text_beq_text (s t : String) : (text s == text t) = (s == t) := by
  rw [beq_eq, same, equality, equalBy]
  cases s == t <;> rfl

@[simp] theorem int_beq_int (m n : Int) : (int m == int n) = (m == n) := by
  rw [beq_eq, same, equality, equalBy]
  cases m == n <;> rfl

@[simp] theorem null_beq_null : (null == null) = true := by
  rw [beq_eq, same, equality, equalBy]

end Value

abbrev Mapping := OrderedMap Value Value

def OrderedMap.toValue (m : Mapping) : Value := .dict m.entries

def Mapping.ofFields (es : List (String × Value)) : Mapping :=
  .ofEntries (es.map fun e => (.text e.1, e.2))

end RecordMapper
