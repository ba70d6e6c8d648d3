import RecordMapper.Schema.Basic

/-!
Schemas with other criteria in their rules. A change of criteria that keeps the names that type rules give
keeps a schema consistent.
-/
namespace RecordMapper

def Fields.mapCriteria (f : Value → Value) (fields : Fields) : Fields :=
  fields.mapValues fun _ rules => rules.mapValues fun _ v => f v

theorem Fields.unknownType?_mapCriteria {f : Value → Value}
    (names : ∀ v, Primitive.unknownName? (f v) = Primitive.unknownName? v) (fields : Fields) :
    (fields.mapCriteria f).unknownType? = fields.unknownType? := by
  simp only [Fields.unknownType?, Fields.mapCriteria, OrderedMap.entries_mapValues,
    List.findSome?_map]
  congr 1
  funext e
  simp only [Function.comp, OrderedMap.get?_mapValues]
  cases e.2.get? (.text Rule.type.name) with
  | none => rfl
  | some v => simp [names]

def Schema.mapCriteria (f : Value → Value)
    (names : ∀ v, Primitive.unknownName? (f v) = Primitive.unknownName? v) (s : Schema) : Schema :=
  { s with
    fields := s.fields.mapCriteria f
    types_known := by rw [Fields.unknownType?_mapCriteria names, s.types_known]
    disjoint := by
      have contains (name : String) : (s.fields.mapCriteria f).contains name = s.fields.contains name :=
        OrderedMap.contains_mapValues s.fields _ name
      have h := s.disjoint
      simp only [clashes] at h ⊢
      simpa only [funext contains] using h }

end RecordMapper
