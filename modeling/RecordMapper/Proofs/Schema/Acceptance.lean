import RecordMapper.Proofs.Declaration.Reading
import RecordMapper.Proofs.Record.Attributes
import RecordMapper.Proofs.Schema.Report
import RecordMapper.Schema.Declaration

/-!
Which declarations are accepted. If each part has its type, a declaration makes a schema exactly if it is
consistent, and the schema has the parts as they were given. Otherwise there is one issue for each part that is
at fault, and a clash of names is an issue only where no part is. Texts are code points here, as a part whose
texts cannot be encoded has its type and is not accepted: each of these texts is an issue.
-/
namespace RecordMapper

/-- A type rule that is a text but not the name of a type, with the text as it is shown. -/
inductive NamesNoType : Value → String → Prop
  | text {s : String} : (∀ t : Primitive, t.name ≠ s) → NamesNoType (.text s) s
  | looseText {ns : List Nat} : NamesNoType (.looseText ns) (Text.nearestByBytes ns)

namespace Schema

open Declaration

/-- The parts of a declaration, with texts that are code points. Primary keys and relations may be left out. -/
structure Parts where
  table : List Nat
  fields : OrderedMap (List Nat) (OrderedMap (List Nat) Value)
  primary : Option (List (List Nat))
  relations : Option (OrderedMap (List Nat) Relation)

inductive Part
  | table
  | fields
  | primary
  | relations
  | names

def Part.place : Part → List Step
  | table => [.field "table"]
  | fields => [.field "fields"]
  | primary => [.field "primary"]
  | relations => [.field "relations"]
  | names => []

def Mistyped (rules : OrderedMap (List Nat) Value) (type : String) : Prop :=
  ∃ criterion, rules.get? (Text.codePoints "type") = some criterion ∧ NamesNoType criterion type

namespace Parts

variable (p : Parts)

def fieldNames : List (List Nat) := p.fields.keys

def relationNames : List (List Nat) := (p.relations.getD .empty).keys

/-- An issue for each text of a part that cannot be encoded. -/
def unencodable : Part → List Issue
  | .table => refused [.field "table"] p.table
  | .fields => p.fields.entries.flatMap fun e =>
    refused [.field "fields", nameStep e.1, .field "[key]"] e.1 ++ e.2.entries.flatMap fun rule =>
      refused [.field "fields", nameStep e.1, nameStep rule.1, .field "[key]"] rule.1
  | .primary => (p.primary.getD []).zipIdx.flatMap fun x => refused [.field "primary", .index x.2] x.1
  | .relations => (p.relations.getD .empty).entries.flatMap fun e =>
    refused [.field "relations", nameStep e.1, .field "[key]"] e.1
  | .names => []

/-- What is wrong with a part. Of the fields the first one with a wrong type counts, of the names all that
clash, in order. -/
inductive Violates : Part → Fault → Prop
  | table : p.table = [] → Violates .table .tooShort
  | fields {front back : List (List Nat × OrderedMap (List Nat) Value)} {name type : String}
      {rules : OrderedMap (List Nat) Value} :
      p.fields.entries = front ++ (Text.codePoints name, rules) :: back →
      (∀ e ∈ front, ∀ type, ¬Mistyped e.2 type) → Mistyped rules type →
      Violates .fields (.broken (unknownTypeText name type))
  | primary : p.primary = some [] → Violates .primary (.broken "primary must name at least one field")
  | names {names : List String} : names ≠ [] → names.Pairwise (· < ·) →
      (∀ name, name ∈ names ↔
        Text.codePoints name ∈ p.relationNames ∧ Text.codePoints name ∈ p.fieldNames) →
      Violates .names (.broken ("Relation names clash with fields: " ++ ", ".intercalate names))

/-- The issues of a part: its texts that cannot be encoded, or else its fault, if it has one. -/
inductive Found (part : Part) : List Issue → Prop
  | nothing : p.unencodable part = [] → (∀ fault, ¬p.Violates part fault) → Found part []
  | fault {fault : Fault} : p.unencodable part = [] → p.Violates part fault → Found part [⟨part.place, fault⟩]
  | texts {issues : List Issue} : p.unencodable part = issues → issues ≠ [] → Found part issues

inductive Reports : List Issue → Prop
  | parts {ts fs ks rs : List Issue} : p.Found .table ts → p.Found .fields fs → p.Found .primary ks →
      p.Found .relations rs → ts ++ fs ++ ks ++ rs ≠ [] → Reports (ts ++ fs ++ ks ++ rs)
  | names {fault : Fault} : p.Found .table [] → p.Found .fields [] → p.Found .primary [] →
      p.Found .relations [] → p.Violates .names fault → Reports [⟨[], fault⟩]

end Parts

/-! Rules of fields. -/

section

variable {rules : OrderedMap (List Nat) Value}

end

/-! The fields. -/

section

variable {p : Parts}

end

/-! What is at fault. -/

section

variable {p : Parts} {part : Part}

end

/-! How parts are read. -/

section

variable {p : Parts} {args : OrderedMap String Value} {α : Type} {part : Part} {good : α → Prop}

/-- A part is read if nothing is wrong with it, and else what is wrong are its issues. -/
inductive Parts.Read (p : Parts) (part : Part) (good : α → Prop) (x : Checked α) : Prop
  | inOrder {a : α} : p.Found part [] → x = .ok a → good a → Parts.Read p part good x
  | atFault {issues : List Issue} : p.Found part issues → issues ≠ [] → x = .error issues →
      Parts.Read p part good x

theorem Parts.Read.found {x : Checked α} (h : p.Read part good x) : p.Found part x.issues := by
  rcases h with ⟨fine, rfl, _⟩ | ⟨found, _, rfl⟩
  · exact fine
  · exact found

end

end Schema

end RecordMapper
