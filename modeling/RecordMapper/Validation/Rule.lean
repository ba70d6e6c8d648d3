import RecordMapper.Function.Basic
import RecordMapper.Value.Membership

/-!
The rules a field declaration can name. A rule compares one value with its criterion: it accepts,
reports a violation, or fails because the criterion makes no sense for the value.
-/
namespace RecordMapper

inductive Primitive
  | string | number | integer | boolean | object | array | function
deriving DecidableEq, Repr

namespace Primitive

def all : List Primitive := [string, number, integer, boolean, object, array, function]

def name : Primitive → String
  | string => "string"
  | number => "number"
  | integer => "integer"
  | boolean => "boolean"
  | object => "object"
  | array => "array"
  | function => "function"

def ofName? (s : String) : Option Primitive :=
  all.find? (·.name == s)

def unknownName? : Value → Option String
  | .text s => if (ofName? s).isNone then some s else none
  | .looseText ns => some (Text.nearestByBytes ns)
  | _ => none

theorem unknownName?_congr {v w : Value}
    (texts : ∀ t : Value, ((∃ s, t = .text s) ∨ ∃ ns, t = .looseText ns) → (v = t ↔ w = t)) :
    unknownName? v = unknownName? w := by
  unfold unknownName?
  split
  · next s => rw [(texts (.text s) (.inl ⟨s, rfl⟩)).1 rfl]
  · next ns => rw [(texts (.looseText ns) (.inr ⟨ns, rfl⟩)).1 rfl]
  · next noText noLooseText =>
    split
    · next s => exact (noText s ((texts (.text s) (.inl ⟨s, rfl⟩)).2 rfl)).elim
    · next ns => exact (noLooseText ns ((texts (.looseText ns) (.inr ⟨ns, rfl⟩)).2 rfl)).elim
    · rfl

/-- Is the value of the type? Truth values are neither numbers nor integers. -/
def accepts (p : Primitive) (v : Value) : Bool :=
  match p, v with
  | string, .text _ | string, .looseText _ => true
  | number, .int _ | number, .float _ | number, .decimal _ => true
  | integer, .int _ => true
  | boolean, .bool _ => true
  | object, .dict _ => true
  | array, .list _ | array, .tuple _ => true
  | function, .callable _ => true
  | _, _ => false

end Primitive

/-- What a violation says when its text is asked for: its wording, behind the field if there is one. A wording
that is no text cannot be said without a field. -/
def Violation.said {ε : Type} (v : Violation ε) : Except Error Value :=
  match v.key, v.breach.wording with
  | .null, .text s => pure (.text s)
  | .null, .looseText ns => pure (.looseText ns)
  | .null, wording => throw (.misfit .type ("__str__ returned non-string (type " ++ wording.kindName ++ ")"))
  | key, wording => do
    let field ← key.toText
    let wording ← wording.toText
    return .ofCodePoints (field.codePoints?.getD [] ++ Text.codePoints ": " ++ wording.codePoints?.getD [])

def Error.said : Error → Except Error Value
  | violation v => v.said
  | e => pure (.text e.message)

inductive Rule
  | required | type | max | min | enum | custom
deriving DecidableEq, Repr

namespace Rule

def name : Rule → String
  | required => "required"
  | type => "type"
  | max => "max"
  | min => "min"
  | enum => "enum"
  | custom => "custom"

def all : List Rule := [required, type, max, min, enum, custom]

def ofKey? : Value → Option Rule
  | .text s => all.find? (·.name == s)
  | _ => none

mutual

/-- Is the value of the class, or of one of the classes of a tuple? Anything else names no class. -/
def ofClass (v : Value) : Value → Except Error Bool
  | .callable (.constructor c) => pure (v.belongsTo c)
  | .tuple cs => ofAnyClass v cs
  | _ => throw .typeMismatch
termination_by structural c => c

def ofAnyClass (v : Value) : List Value → Except Error Bool
  | [] => pure false
  | c :: cs => do
    if ← ofClass v c then return true
    ofAnyClass v cs
termination_by structural cs => cs

end

def hasType (v : Value) : Value → Except Error Bool
  | .text s => pure ((Primitive.ofName? s).any (·.accepts v))
  | .looseText _ => pure false
  | criterion => ofClass v criterion

/-- What the bounds of a value apply to: a number itself, or the length of a sized value. -/
def measure? : Value → Option Value
  | .int n => some (.int n)
  | .float x => some (.float x)
  | .decimal x => some (.decimal x)
  | v => v.length?.map fun n => .int n

def customText : String := "Custom validation failed"

/-- The outcome of a custom predicate: its errors, requests to stop apart, become violations, which say what
the errors say. If an error cannot say anything, the failure to do so is the outcome. -/
def judge (v : Value) : Except Error Value → Except Error Unit
  | .ok answer =>
    if answer.truthy then pure () else throw (.ofBreach (.custom (.text customText) none) v)
  | .error e =>
    if e.isOrdinary then do
      let text ← e.said
      throw (.ofBreach (.custom (text.orIfEmpty customText) (some e)) v)
    else throw e

def check (fns : Functions) (v criterion : Value) : Rule → Except Error Unit
  | required =>
    if criterion.truthy && v.isMissing then throw (.ofBreach .missing v) else pure ()
  | type => do
    if v.isMissing then return
    unless ← hasType v criterion do throw (.ofBreach (.unexpectedType criterion) v)
  | max =>
    match measure? v with
    | none => pure ()
    | some m => do if ← m.compare (fun p q => q.lt p) criterion then throw (.ofBreach .tooBig v)
  | min =>
    match measure? v with
    | none => pure ()
    | some m => do if ← m.compare (fun p q => p.lt q) criterion then throw (.ofBreach .tooSmall v)
  | enum => do
    unless ← v.memberOf criterion do
      throw (if (allowedText? criterion).isSome then .ofBreach (.notEnumerated criterion) v else .endless)
  | custom => judge v (criterion.applyTo fns v)

end Rule

end RecordMapper
