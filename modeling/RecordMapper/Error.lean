import RecordMapper.Declaration.Issue
import RecordMapper.Json.Fault
import RecordMapper.Value.Display

/-!
Errors as causes. A violation tells which rule a value breaks; the other errors tell why an
operation could not be carried out, or were raised by a collaborator and pass through unchanged.
-/
namespace RecordMapper

/-- Why a value breaks a rule. `ε` is the type of errors that a custom predicate may raise. -/
inductive Breach (ε : Type)
  | undefined
  | missing
  | unexpectedType (expected : Value)
  | tooBig
  | tooSmall
  | notEnumerated (allowed : Value)
  /-- Worded by the predicate, or by a default. -/
  | custom (wording : Value) (cause : Option ε)
  /-- A failure that no rule of the library reports. -/
  | general (wording : Value)
deriving Repr

/-- A value that breaks a rule. The key names the field it was found in, `null` if it was checked
on its own. -/
structure Violation (ε : Type) where
  breach : Breach ε
  value : Value
  key : Value := .null
deriving Repr

inductive OutsideKind
  | runtime | value | key | connection | system | lookup
  /-- A request to stop, which is not handled as an ordinary error. -/
  | abort
deriving DecidableEq, Repr

inductive MisfitKind
  | type | value | overflow | attribute | arithmetic
deriving DecidableEq, Repr

inductive Error
  | violation (v : Violation Error)
  | declaration (issues : List Declaration.Issue)
  | unknownModel (name : String)
  /-- No model is registered under the name that a relation refers to. -/
  | noTarget (name : String)
  /-- The class is not registered on any database. -/
  | unboundClass (name : String)
  | noConnection
  | missingPrimary (model : String) (keys : List String)
  | noProfile (variablePrefix : List Nat)
  | unknownProfile (name : List Nat) (available : List String)
  | noConfig (path : String)
  | notFound (path : String)
  | isDirectory
  | notDirectory
  | alreadyThere
  /-- A name that the system does not take: it is too long, or empty. -/
  | badName
  | badJson (fault : Json.Fault)
  | badToml
  | badEncoding
  /-- Code points that are no text are to be encoded. -/
  | unencodable
  | noSource
  | nothingToSet
  | unscopedDelete
  | noQuery
  | badRelationKind
  | valuesNotSequence
  | partialNotRecord
  /-- An operation does not fit the kind of a value. -/
  | typeMismatch
  | notCallable (kind : String)
  | noAttribute
  | badValue
  | overflow
  /-- There is no end to what is asked of a record that holds itself. -/
  | endless
  | missingMember
  /-- There is no item at a position. -/
  | outOfRange
  /-- A comparison with something that is not a number. -/
  | invalidComparison
  /-- The end of a search, which reading a text reports as a fault. -/
  | exhausted
  /-- A class does not take a value. -/
  | misfit (kind : MisfitKind) (reason : String)
  /-- A named predicate does not accept the kind of its argument. -/
  | refused (reason : String)
  /-- Raised by a collaborator. -/
  | outside (kind : OutsideKind) (message : String)
deriving Repr, Inhabited

def allowedText? (allowed : Value) : Option String :=
  let shown := match allowed with
    | .relation r => some (Value.displayParts r)
    | v => (Value.list (v.items?.getD [])).display?
  shown.map ("Value is not one of " ++ ·)

def Breach.text {ε : Type} : Breach ε → String
  | undefined => "Value is undefined"
  | missing => "Missing required value"
  | unexpectedType expected =>
    let name := match expected with
      | .callable (.constructor c) => c.name
      | .callable (.named f) => f
      | v => v.shown
    s!"Value is not of type {name}"
  | tooBig => "Value is too big"
  | tooSmall => "Value is too small"
  | notEnumerated allowed => (allowedText? allowed).getD ""
  | custom wording _ => wording.shown
  | general wording => wording.shown

/-- The wording of a breach as it is given: a text, unless it was made by hand. -/
def Breach.wording {ε : Type} : Breach ε → Value
  | custom wording _ => wording
  | general wording => wording
  | breach => .text breach.text

def Breach.code {ε : Type} : Breach ε → String
  | undefined => "UNDEFINED_VALUE"
  | missing => "MISSING_REQUIRED_VALUE"
  | unexpectedType _ => "UNEXPECTED_TYPE"
  | tooBig => "VALUE_TOO_BIG"
  | tooSmall => "VALUE_TOO_SMALL"
  | notEnumerated _ => "VALUE_NOT_ENUMERATED"
  | custom _ _ => "CUSTOM_VALIDATION_FAILED"
  | general _ => "VALIDATION_FAILED"

def Violation.message {ε : Type} (v : Violation ε) : String :=
  match v.key with
  | .null => v.breach.text
  | key => key.shown ++ ": " ++ v.breach.text

def Violation.status {ε : Type} (_ : Violation ε) : Nat := 400

namespace Error

def ofBreach (breach : Breach Error) (value : Value) : Error :=
  violation { breach, value }

/-- The message of an error. It is left out for errors of operations on values, which are told by their kind:
what is raised by a class or a named function, and so may be quoted, has its message. -/
def message : Error → String
  | violation v => v.message
  | unknownModel name | noTarget name =>
    s!"Model '{name}' does not exist or has not been registered"
  | unboundClass name =>
    s!"Attempt to access the database of a not yet registered model: {name}"
  | noConnection => "Database connection has not been initialized"
  | missingPrimary model keys =>
    s!"{model} is missing a value for its primary key(s) " ++ ", ".intercalate keys
  | noProfile variablePrefix =>
    "No database profile configured for db-model.\nSet " ++ Text.nearest variablePrefix ++
      "DB_PROFILE=<name> or pass profile_name explicitly."
  | unknownProfile name available =>
    "Profile '" ++ Text.nearest name ++ "' not found in db.toml.\nAvailable profiles: " ++
      ", ".intercalate available
  | noConfig path =>
    s!"Database config not found: {path}\n" ++
      "Create a db.toml with at least one [profiles.<name>] table."
  | notFound path => "[Errno 2] No such file or directory: " ++ Text.quoted path
  | badJson fault => fault.message
  | noSource => "SELECT needs a FROM source"
  | nothingToSet => "UPDATE needs at least one value to set"
  | unscopedDelete => "Query cannot be empty when deleting"
  | noQuery => "No query provided"
  | badRelationKind => "Invalid relation type"
  | valuesNotSequence => "Values must be a list or tuple"
  | partialNotRecord => "Partial must be an instance of Model"
  | notCallable kind => s!"'{kind}' object is not callable"
  | refused reason | misfit _ reason => reason
  | endless => "maximum recursion depth exceeded"
  | outside .key message => Text.quoted message
  | outside _ message => message
  | _ => ""

/-- Is the error one that handlers of ordinary errors handle? -/
def isOrdinary : Error → Bool
  | outside .abort _ => false
  | _ => true

/-- The errors that were being handled when this one arose, the latest first, as far as its cause
always has some. -/
def contexts : Error → List Error
  | violation ⟨.custom _ (some cause), _, _⟩ => cause :: cause.contexts
  | badJson ⟨.expectedValue, _, _, _⟩ => [exhausted]
  | unknownModel _ => [missingMember]
  | _ => []
termination_by structural e => e

def atKey (key : Value) : Error → Error
  | violation v => violation { v with key }
  | e => e

/-- Does the error cite a value without an end? -/
def isEndless : Error → Bool
  | violation ⟨breach, value, key⟩ =>
    value.isEndless || key.isEndless ||
      match breach with
      | .unexpectedType v | .notEnumerated v | .custom v _ | .general v => v.isEndless
      | _ => false
  | _ => false

def undefinedKey? : Error → Option Value
  | violation ⟨.undefined, _, key⟩ =>
    match key with
    | .null => none
    | key => some key
  | _ => none

end Error

end RecordMapper
