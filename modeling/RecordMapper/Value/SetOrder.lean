import RecordMapper.Number.Residue
import RecordMapper.Value.Convert

/-!
The order in which a set is walked through. Where every member is a number, an identifier, an empty
text, or a tuple or frozen set of such, it has a key, and the set is a table of slots: a member goes
to the slot that its key leads to, or to the first free one on a way from there, and the table grows
when three fifths of it are taken. The set is walked through slot by slot. Any other set is walked
through in order of first mention. A copy of a set takes the members in their order, which may put
them in another one.
-/
namespace RecordMapper.Value

def residueWord? (x : Number.Extended) : Option UInt64 :=
  x.residue?.map UInt64.ofInt

def mixingStart : UInt64 := 2870177450012600261

def mixWord (mixed word : UInt64) : UInt64 :=
  let sum := mixed + word * 14029467366897019727
  ((sum <<< 31) ||| (sum >>> 33)) * 11400714785074694791

def scatter (word : UInt64) : UInt64 :=
  (word ^^^ (89869747 : UInt64) ^^^ (word <<< 16)) * 3644798167

def setWord (size : Nat) (mixed : UInt64) : UInt64 :=
  let word := mixed ^^^ (UInt64.ofNat size + 1) * 1927868237
  (word ^^^ ((word >>> 11) ^^^ (word >>> 25))) * 69069 + 907133923

mutual

def slotKey? : Value → Option UInt64
  | text "" => some 0
  | bytes [] => some 0
  | tuple xs => do
    let mixed ← mixedKeys? mixingStart xs
    return mixed + (UInt64.ofNat xs.length ^^^ (mixingStart ^^^ 3527539))
  | set _ xs => (scatteredKeys? xs).map (setWord xs.length)
  | uuid s => residueWord? (.finite (.ofInt (hexNumber s)))
  | v => v.number?.bind residueWord?
termination_by structural v => v

def mixedKeys? (mixed : UInt64) : List Value → Option UInt64
  | [] => some mixed
  | x :: xs => do mixedKeys? (mixWord mixed (← slotKey? x)) xs
termination_by structural xs => xs

def scatteredKeys? : List Value → Option UInt64
  | [] => some 0
  | x :: xs => do return scatter (← slotKey? x) ^^^ (← scatteredKeys? xs)
termination_by structural xs => xs

end

abbrev Slots := Array (Option (UInt64 × Value))

namespace Slots

def free (size : Nat) : Slots := Array.replicate size none

/-- The places that are looked at together: ten neighbours, or one near the end of the table. -/
def neighbours (size place : Nat) : List Nat :=
  if place + 9 < size then (List.range 10).map (place + ·) else [place]

/-- The first free slot on the way from a place. The rest of the key counts for less at each step, so
that the way ends up passing by all places. -/
def firstFree? (slots : Slots) : (steps : Nat) → (rest place : Nat) → Option Nat
  | 0, _, _ => none
  | steps + 1, rest, place =>
    match (neighbours slots.size place).find? fun n => slots[n]? matches some none with
    | some n => some n
    | none =>
      let rest := rest / 32
      firstFree? slots steps rest ((5 * place + 1 + rest) % slots.size)

def place (slots : Slots) (member : UInt64 × Value) : Slots :=
  let key := member.1.toNat
  match slots.firstFree? (slots.size + 16) key (key % slots.size) with
  | some n => slots.setIfInBounds n (some member)
  | none => slots

def sizeAbove (n : Nat) : Nat := max 8 (Nat.pow 2 (n.log2 + 1))

def count (slots : Slots) : Nat := slots.countP Option.isSome

/-- The table with one more member, larger if it would be too full. -/
def insert (slots : Slots) (member : UInt64 × Value) : Slots :=
  let slots := slots.place member
  let count := slots.count
  if 5 * count < 3 * (slots.size - 1) then slots
  else
    let size := sizeAbove (if 50000 < count then 2 * count else 4 * count)
    slots.foldl (fun larger slot => slot.elim larger larger.place) (free size)

end Slots

def slotOrder? (members : List Value) : Option (List Value) := do
  let keyed ← members.mapM fun v => do return (← v.slotKey?, v)
  return (keyed.foldl Slots.insert (Slots.free 8)).toList.filterMap (Option.map (·.2))

def setOrder (xs : List Value) : List Value :=
  let members := xs.foldl (fun seen x => if x.isIn seen then seen else seen ++ [x]) []
  (slotOrder? members).getD members

def ofMembers (frozen : Bool) (xs : List Value) : Value := set frozen (setOrder xs)

mutual

/-- A copy of the value, with every set in it built anew. -/
def rebuilt : Value → Value
  | list xs => list (rebuiltItems xs)
  | tuple xs => tuple (rebuiltItems xs)
  | set frozen xs => ofMembers frozen (rebuiltItems xs)
  | dict es => dict (rebuiltEntries es)
  | record c identity es => record c identity (rebuiltEntries es)
  | v => v
termination_by structural v => v

def rebuiltItems : List Value → List Value
  | [] => []
  | x :: xs => rebuilt x :: rebuiltItems xs
termination_by structural xs => xs

def rebuiltEntries : Entries → Entries
  | [] => []
  | (k, v) :: es => (rebuilt k, rebuilt v) :: rebuiltEntries es
termination_by structural es => es

end

end RecordMapper.Value
