import RecordMapper.Validation.Rule

/-!
Violations made by hand, from the arguments that each kind of violation takes.
-/
namespace RecordMapper

inductive ViolationKind
  | general | undefined | missing | unexpectedType | tooBig | tooSmall | notEnumerated | custom
deriving DecidableEq, Repr

def Breach.kind {ε : Type} : Breach ε → ViolationKind
  | undefined => .undefined
  | missing => .missing
  | unexpectedType _ => .unexpectedType
  | tooBig => .tooBig
  | tooSmall => .tooSmall
  | notEnumerated _ => .notEnumerated
  | custom _ _ => .custom
  | general _ => .general

namespace ViolationKind

def alone (breach : Breach Error) (value : Value) : Violation Error := { breach, value }

/-- The violation of a kind with the given arguments. The general kind takes its wording first, the
others take the value first; what may be left out is `null` or has a wording of its own. -/
def ofArguments (kind : ViolationKind) (args : List Value) : Except Error (Violation Error) :=
  match kind, args with
  | general, [wording] => pure (alone (.general wording) .null)
  | general, [wording, value] => pure (alone (.general wording) value)
  | general, [wording, value, key] => pure { breach := .general wording, value, key }
  | undefined, [] => pure (alone .undefined .null)
  | undefined, [value] => pure (alone .undefined value)
  | missing, [] => pure (alone .missing .null)
  | missing, [value] => pure (alone .missing value)
  | unexpectedType, [value, expected] => pure (alone (.unexpectedType expected) value)
  | tooBig, [value] => pure (alone .tooBig value)
  | tooSmall, [value] => pure (alone .tooSmall value)
  | notEnumerated, [value, allowed] =>
    if allowed.items?.isSome then pure (alone (.notEnumerated allowed) value)
    else throw .typeMismatch
  | custom, [value] => pure (alone (.custom (.text Rule.customText) none) value)
  | custom, [value, wording] => pure (alone (.custom wording none) value)
  | _, _ => throw .typeMismatch

/-- The violation of a kind with the given arguments, found in a field if a key is given, if it has anything
to say. -/
def build (kind : ViolationKind) (args : List Value) (key : Option Value) :
    Except Error (Violation Error) := do
  let violation ← kind.ofArguments args
  let violation := { violation with key := key.getD violation.key }
  let _ ← violation.said
  return violation

end ViolationKind

end RecordMapper
