/-!
Issues found in a declaration: what is wrong, and at which place of the declaration.
-/
namespace RecordMapper.Declaration

inductive Step
  | field (name : String)
  | index (i : Int)
deriving DecidableEq, Repr

inductive Fault
  | missing
  | notText
  | badEncoding
  | tooShort
  | notDict
  | notList
  | notRelation
  | notRelationKind
  | notCallable
  | notInteger
  | notIntegerText
  | overlongInteger
  | hasFraction
  | notFinite
  | broken (rule : String)
deriving DecidableEq, Repr

namespace Fault

def kind : Fault → String
  | missing => "missing"
  | notText => "string_type"
  | badEncoding => "string_unicode"
  | tooShort => "string_too_short"
  | notDict => "dict_type"
  | notList => "list_type"
  | notRelation => "model_type"
  | notRelationKind => "enum"
  | notCallable => "callable_type"
  | notInteger => "int_type"
  | notIntegerText => "int_parsing"
  | overlongInteger => "int_parsing_size"
  | hasFraction => "int_from_float"
  | notFinite => "finite_number"
  | broken _ => "value_error"

def message : Fault → String
  | missing => "Field required"
  | notText => "Input should be a valid string"
  | badEncoding =>
    "Input should be a valid string, unable to parse raw data as a unicode string"
  | tooShort => "String should have at least 1 character"
  | notDict => "Input should be a valid dictionary"
  | notList => "Input should be a valid list"
  | notRelation => "Input should be a valid dictionary or instance of Relation"
  | notRelationKind => "Input should be 'HAS_ONE' or 'HAS_MANY'"
  | notCallable => "Input should be callable"
  | notInteger => "Input should be a valid integer"
  | notIntegerText => "Input should be a valid integer, unable to parse string as an integer"
  | overlongInteger => "Unable to parse input string as an integer, exceeded maximum size"
  | hasFraction => "Input should be a valid integer, got a number with a fractional part"
  | notFinite => "Input should be a finite number"
  | broken rule => "Value error, " ++ rule

end Fault

structure Issue where
  place : List Step
  fault : Fault
deriving DecidableEq, Repr

def Issue.under (s : Step) (i : Issue) : Issue :=
  { i with place := s :: i.place }

end RecordMapper.Declaration
