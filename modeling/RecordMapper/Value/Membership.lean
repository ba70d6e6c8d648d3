import RecordMapper.Error

/-!
Membership and order of values, with the errors of questions that make no sense: looking for
something in a value that lists nothing, or ordering a number against something that is none.
-/
namespace RecordMapper.Value

def occursIn {α : Type} [BEq α] (needle : List α) : List α → Bool
  | [] => needle.isEmpty
  | x :: xs => needle.isPrefixOf (x :: xs) || occursIn needle xs

/-- Can a value be looked up among keys? A set can, by its members. -/
def canBeKey (v : Value) : Bool :=
  match v with
  | set _ _ => true
  | v => v.isHashable

def Incomparable.toError : Incomparable → Error
  | signaling => .invalidComparison
  | endless => .endless

def equals (v w : Value) : Except Error Bool := (v.equality w).mapError (·.toError)

/-- Is a value one of the items of a list? The items are tried one after the other. -/
def occursAmong (v : Value) : List Value → Except Error Bool
  | [] => pure false
  | x :: xs => do if ← x.equals v then return true else occursAmong v xs

/-- Is a value in a container? Texts contain texts, byte strings contain bytes and byte strings,
maps contain their keys, and relations contain pairs. -/
def memberOf (v : Value) : Value → Except Error Bool
  | list xs | tuple xs => v.occursAmong xs
  | set _ xs => if v.canBeKey then pure (v.isIn xs) else throw .typeMismatch
  | dict es => if v.isHashable then pure (v.isIn (es.map (·.1))) else throw .typeMismatch
  | text s =>
    match v with
    | text t => pure (occursIn t.toList s.toList)
    | looseText _ => pure false
    | _ => throw .typeMismatch
  | looseText ns =>
    match v.codePoints? with
    | some ms => pure (occursIn ms ns)
    | none => throw .typeMismatch
  | bytes bs =>
    match v with
    | bytes cs => pure (occursIn cs bs)
    | int n => byteIn n bs
    | bool b => byteIn (if b then 1 else 0) bs
    | _ => throw .typeMismatch
  | relation r => v.occursAmong (((relation r).items?).getD [])
  | _ => throw .typeMismatch
where
  /-- Is a number one of the bytes? It has to be a byte itself. -/
  byteIn (n : Int) (bs : List UInt8) : Except Error Bool :=
    if 0 ≤ n ∧ n < 256 then pure (bs.contains (UInt8.ofNat n.toNat)) else throw .badValue

/-- The item at a position; negative positions count from the end. Truth values are the positions zero
and one. -/
def itemAt (xs : List Value) : Value → Except Error Value
  | int n =>
    match xs[(if n < 0 then n + xs.length else n).toNat]? with
    | some x => if -(xs.length : Int) ≤ n then pure x else throw .outOfRange
    | none => throw .outOfRange
  | bool b => (xs[if b then 1 else 0]?.map pure).getD (throw .outOfRange)
  | _ => throw .typeMismatch

def part (v key : Value) : Except Error Value :=
  match v with
  | dict es =>
    match es.find? fun e => e.1 == key with
    | some e => pure e.2
    | none => throw .missingMember
  | list xs | tuple xs => itemAt xs key
  | bytes bs => itemAt (bs.map fun b => int b.toNat) key
  | text s => itemAt (((text s).items?).getD []) key
  | looseText ns => itemAt (((looseText ns).items?).getD []) key
  | _ => throw .typeMismatch

def isDecimal : Value → Bool
  | decimal _ => true
  | _ => false

/-- Compares two numbers. Floating-point comparisons with no number are false; decimal ones are
refused. -/
def compare (test : Number.Extended → Number.Extended → Bool) (v w : Value) :
    Except Error Bool :=
  match v.number?, w.number? with
  | some p, some q =>
    if (v.isDecimal || w.isDecimal) && (p == .nan || q == .nan) then throw .invalidComparison
    else pure (test p q)
  | _, _ => throw .typeMismatch

@[simp] theorem compare_int (test : Number.Extended → Number.Extended → Bool) (m n : Int) :
    compare test (int m) (int n) = .ok (test (.finite (.ofInt m)) (.finite (.ofInt n))) := rfl

end RecordMapper.Value
