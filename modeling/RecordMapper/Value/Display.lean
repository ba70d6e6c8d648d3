import RecordMapper.Text.Quoted
import RecordMapper.Number.Shortest
import RecordMapper.Value.Class

/-!
The display of values in messages. Texts are quoted inside other values and shown bare on their
own; a tuple of one item keeps a comma, and the empty set has a display of its own. A list, a tuple
or a map that comes back inside its own display is only hinted at there; a record is displayed again,
so that one which holds itself directly has no display.
-/
namespace RecordMapper

def RelationKind.ofLabel (label : String) : RelationKind :=
  if label = "HAS_ONE" then hasOne else if label = "HAS_MANY" then hasMany else other label

def Callable.display : Callable → String
  | named name => s!"<function {name}>"
  | constructor c => "<class '" ++ c.qualifiedName ++ "'>"

def padNumber (width n : Nat) : String :=
  String.ofList (Number.padLeft width (Number.digitsOf n))

def Relation.shownParts (r : Relation) : List (String × String) :=
  let kind := match r.kind with
    | .other label => Text.quoted label
    | k => "<RelationType." ++ k.label ++ ": " ++ Text.quoted k.label ++ ">"
  let columns := match r.columns with
    | some cs => "[" ++ ", ".intercalate (cs.map Text.quoted) ++ "]"
    | none => "None"
  let transform := match r.transform with
    | some f => f.display
    | none => "None"
  [("type", kind), ("model", Text.quoted r.model), ("local", Text.quoted r.localColumn),
    ("foreign", Text.quoted r.foreignColumn), ("columns", columns), ("transform", transform)]

def Relation.shownFields (r : Relation) : List String :=
  r.shownParts.map fun p => p.1 ++ "=" ++ p.2

namespace Value

def enclosed (left right : String) (parts : List String) : String :=
  left ++ ", ".intercalate parts ++ right

def bare? : Value → Option String
  | text s => some s
  | looseText ns => some (Text.nearest ns)
  | decimal x => some x.toText
  | uuid s => some s
  | date y m d => some (padNumber 4 y ++ "-" ++ padNumber 2 m ++ "-" ++ padNumber 2 d)
  | relation r => some (" ".intercalate r.shownFields)
  | _ => none

/-- Where a list, a tuple or a map stands: the record that holds it, and the numbers of the items on
the way to it, the last one first. -/
structure Place where
  owner : Nat
  way : List Nat
deriving DecidableEq, Repr

def Place.item (n : Nat) (p : Place) : Place := { p with way := n :: p.way }

/-- The display of what stands at a place, or a hint inside its own display. -/
def displayAt (here : Option Place) (around : List Place) (hint : String)
    (parts : List Place → Option String) : Option String :=
  if here.any around.contains then some hint else parts (here.toList ++ around)

def displayTuple : List String → String
  | [part] => "(" ++ part ++ ",)"
  | parts => enclosed "(" ")" parts

def displayParts (r : Relation) : String :=
  enclosed "[" "]" (r.shownParts.map fun p => displayTuple [Text.quoted p.1, p.2])

def displaySet (frozen : Bool) : List String → String
  | [] => if frozen then "frozenset()" else "set()"
  | parts =>
    let members := enclosed "\x7b" "\x7d" parts
    if frozen then s!"frozenset({members})" else members

mutual

/-- The display of a value inside another one, for a given display of records. `around` are the
places of the lists, tuples and maps around the value, `here` is its own. -/
def displayBy (records : List Place → Value → Option String) (around : List Place)
    (here : Option Place) : Value → Option String
  | null => some "None"
  | undefined => some "UNDEFINED"
  | bool b => some (if b then "True" else "False")
  | int n => some (toString n)
  | float x => some x.toText
  | decimal x => some ("Decimal('" ++ x.toText ++ "')")
  | text s => some (Text.quoted s)
  | looseText ns => some (Text.quotedPoints ns)
  | bytes bs => some (Text.quotedBytes bs)
  | list xs =>
    displayAt here around "[...]" fun around =>
      (displayItems records around here 0 xs).map (enclosed "[" "]")
  | tuple xs =>
    displayAt here around "(...)" fun around =>
      (displayItems records around here 0 xs).map displayTuple
  | set frozen xs => (displayItems records around none 0 xs).map (displaySet frozen)
  | dict es =>
    displayAt here around "\x7b...\x7d" fun around =>
      (displayEntries records around here 0 es).map (enclosed "\x7b" "\x7d")
  | uuid s => some s!"UUID('{s}')"
  | date y m d => some s!"datetime.date({y}, {m}, {d})"
  | object => some "<object object>"
  | callable f => some f.display
  | relation r => some (enclosed "Relation(" ")" r.shownFields)
  | record c identity es => records around (record c identity es)
  | reference c n => records around (reference c n)
termination_by structural v => v

def displayItems (records : List Place → Value → Option String) (around : List Place)
    (here : Option Place) (n : Nat) : List Value → Option (List String)
  | [] => some []
  | x :: xs => do
    let part ← displayBy records around (here.map (·.item n)) x
    return part :: (← displayItems records around here (n + 1) xs)
termination_by structural xs => xs

def displayEntries (records : List Place → Value → Option String) (around : List Place)
    (here : Option Place) (n : Nat) : Entries → Option (List String)
  | [] => some []
  | (k, v) :: es => do
    let key ← displayBy records around none k
    let part ← displayBy records around (here.map (·.item n)) v
    return (key ++ ": " ++ part) :: (← displayEntries records around here (n + 1) es)
termination_by structural es => es

end

def displayAttribute (records : List Place → Value → Option String) (around : List Place)
    (owner : Option Nat) (numbered : (Value × Value) × Nat) : Option String := do
  let ((k, v), n) := numbered
  let name ← k.bare? <|> displayBy records around none k
  return name ++ "=" ++ (← displayBy records around (owner.map (⟨·, [n]⟩)) v)

/-- The display of a record, unless it takes more displays inside one another than given. -/
def displayRecord (table : RecordTable) : (depth : Nat) → List Place → Value → Option String
  | 0, _, _ => none
  | depth + 1, around, v => do
    let (c, identity, es) ← v.record? table
    let parts ← es.zipIdx.mapM (displayAttribute (displayRecord table depth) around identity)
    return enclosed (c.name ++ "(") ")" parts

def heldCount (table : RecordTable) : Nat :=
  (table.flatMap fun r => r.2.flatMap fun e => e.2.folded.inner).length

/-- The display of a value inside another one, if it has an end. A list, tuple or map is around itself
once at the most. So of more displays of records inside one another than there are records, for each
number of lists, tuples and maps around them, two are of the same record in the same places, and there
is no end to them. -/
def display? (v : Value) : Option String :=
  let values := v.inner
  let table := recordTable values
  displayBy (displayRecord table (recordCount values * (heldCount table + 1) + 1)) [] none v

def display (v : Value) : String := v.display?.getD ""

def shown? (v : Value) : Option String := v.bare? <|> v.display?

def shown (v : Value) : String := v.shown?.getD ""

@[simp] theorem shown_text (s : String) : shown (text s) = s := rfl

end Value

end RecordMapper
