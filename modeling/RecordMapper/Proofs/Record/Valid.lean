import RecordMapper.Proofs.Record.Attributes
import RecordMapper.Proofs.Validation.Heal

/-!
What full validation vouches for. A record takes the data as it is validated, but the primary keys are
put over it afterwards and are not looked at. So the declared fields of a new record are valid as far
as they come from the data.
-/
namespace RecordMapper

open Validation

def Fields.asMapping (fields : Fields) : Mapping where
  entries := fields.entries.map fun e => (.text e.1, OrderedMap.toValue e.2)
  distinct := by
    rw [List.pairwise_map]
    exact fields.distinct.imp fun {a b} h => by simpa using h

theorem Fields.toValue_asMapping (fields : Fields) : fields.asMapping.toValue = fields.toValue := rfl

theorem Fields.wellNamed (fields : Fields) : WellNamed fields.asMapping.entries := by
  apply wellNamed_of_texts
  intro k hk
  simp only [OrderedMap.keys, Fields.asMapping, List.map_map, List.mem_map] at hk
  obtain ⟨field, _, rfl⟩ := hk
  rfl

section

variable (fns : Functions)

theorem Validation.validateFields_eq_ok {obj : Value} {fields : Entries} :
    validateFields fns obj fields = .ok () ↔
      ∀ f ∈ fields, validateField fns obj f.1 f.2 = .ok () := by
  have walk : validateFields fns obj fields = forM fields fun f => validateField fns obj f.1 f.2 := by
    induction fields with
    | nil => rfl
    | cons field fields ih => rw [validateFields, ih, List.forM_cons]
  rw [walk, forM_eq_ok]

theorem Validation.validateObject_eq_ok {obj : Value} {fields : Fields} :
    validateObject fns obj fields.toValue = .ok () ↔
      ∀ field ∈ fields.entries,
        validateField fns obj (.text field.1) (OrderedMap.toValue field.2) = .ok () := by
  change validateFields fns obj fields.asMapping.entries = .ok () ↔ _
  rw [validateFields_eq_ok, Fields.asMapping, List.forall_mem_map]

theorem Validation.validateField_of_value {m : Mapping} {key rules v : Value} (text : key.isText)
    (h : m.get? key = some v) :
    validateField fns m.toValue key rules = .ok () ↔ validateValue fns v rules = .ok () := by
  have value : valueAt? m.toValue key = .ok (m.get? key) := rfl
  rw [validateField, Value.memberOf_dict_of_isText text, value, h]
  exact mapError_eq_ok

theorem Schema.healed_eq_ok {fields : Fields} {values checked : Mapping}
    (h : healed fns fields values = .ok checked) :
    ∀ f ∈ fields.asMapping.entries,
      needsNull checked f = false ∧ validateField fns checked.toValue f.1 f.2 = .ok () := by
  have normalized := normalize_eq_singlePass fns (m := values) fields.wellNamed
  rw [fields.toValue_asMapping] at normalized
  rw [healed, normalized] at h
  rcases singlePass_cases fns (m := values) fields.wellNamed with
    ⟨pass, valid⟩ | ⟨before, field, rest, e, _, pass, _⟩
  · rw [pass] at h
    simp only [Value.mapping?_toValue, Option.getD_some, pure_eq_ok] at h
    subst h
    intro f hf
    have settled := needsNull_healAll (m := values) fields.wellNamed hf
    refine ⟨settled, ?_⟩
    rw [validateField_of_needsNull fns (fields.wellNamed.texts f hf) settled]
    exact valid f hf
  · rw [pass] at h
    cases h

end

namespace Record

variable {fns : Functions} {m : ModelClass} {primary : Value} {data : Mapping} {strip : Bool}
  {r : Record}

private theorem field_of_build (h : build fns m primary data.toValue (.bool true) strip = .ok r)
    {field : String × Mapping} (hf : field ∈ r.schema.fields.entries) :
    validateField fns (r.values false).toValue (.text field.1) field.2.toValue = .ok () ↔
      ∀ v, (r.schema.primaryOf primary data).get? (.text field.1) = some v →
        validateValue fns v field.2.toValue = .ok () := by
  obtain ⟨values, scope, checked, _, hvalues, hscope, hchecked, _, attributes⟩ := build_eq_ok h
  have given := Value.orEmpty_toMapping (Value.toMapping_toValue data)
  obtain rfl := Except.ok.inj (given.symm.trans hvalues)
  obtain rfl := Except.ok.inj hscope
  have declared : field.1 ∈ r.schema.fieldNames := List.mem_map_of_mem hf
  have value := get?_attributes attributes field.1
  have kept : (r.values false).get? (.text field.1) = _ :=
    Schema.get?_valuesIn r.schema r.attributes field.1
  rw [if_pos declared, value] at kept
  cases found : (r.schema.primaryOf primary data).get? (.text field.1) with
  | some v =>
    rw [found] at kept
    rw [validateField_of_value fns rfl kept]
    simp
  | none =>
    -- The field comes from the data, where it has been settled and passes.
    have member : (.text field.1, field.2.toValue) ∈ r.schema.fields.asMapping.entries :=
      List.mem_map_of_mem (f := fun e : String × Mapping => (Value.text e.1, e.2.toValue)) hf
    obtain ⟨settled, valid⟩ := Schema.healed_eq_ok fns hchecked _ member
    have same : (r.values false).get? (.text field.1) = checked.get? (.text field.1) := by
      refine kept.trans ?_
      rw [found, Option.none_or]
      cases there : checked.get? (.text field.1) with
      | none => rfl
      | some v =>
        rw [Option.map_some, Schema.defined_eq_self]
        rintro rfl
        rw [needsNull, there] at settled
        cases settled
    rw [@validateField_congr fns _ _ (.text field.1, field.2.toValue) rfl same, valid]
    simp

/-- A fully validated record is valid exactly if the primary keys among its declared fields are, as
nobody has checked those. If the two have no names in common, it is valid. -/
theorem values_valid_iff (h : build fns m primary data.toValue (.bool true) strip = .ok r) :
    (validateObject fns (r.values false).toValue r.schema.fieldsValue = .ok () ↔
      ∀ field ∈ r.schema.fields.entries, ∀ v,
        (r.schema.primaryOf primary data).get? (.text field.1) = some v →
          validateValue fns v field.2.toValue = .ok ()) ∧
    ((∀ name ∈ r.schema.fieldNames, name ∉ r.schema.primary ∧
        (r.schema.givenKeys primary).get? (.text name) = none) →
      validateObject fns (r.values false).toValue r.schema.fieldsValue = .ok ()) := by
  have valid : validateObject fns (r.values false).toValue r.schema.fieldsValue = .ok () ↔
      ∀ field ∈ r.schema.fields.entries, ∀ v,
        (r.schema.primaryOf primary data).get? (.text field.1) = some v →
          validateValue fns v field.2.toValue = .ok () := by
    rw [Schema.fieldsValue, validateObject_eq_ok]
    exact forall₂_congr fun field hf => field_of_build h hf
  refine ⟨valid, fun apart => valid.2 fun field hf v found => ?_⟩
  obtain ⟨noKey, notGiven⟩ := apart field.1 (List.mem_map_of_mem hf)
  rw [Schema.get?_primaryOf, if_neg noKey, notGiven] at found
  cases found

def accounts : Schema :=
  { users with
    table := "accounts"
    fields := .ofEntries [("id", .ofFields [("type", .text "integer")])]
    table_ne := by decide
    types_known := rfl
    disjoint := clashes_eq_nil.2 nofun }

def account (id : Value) : Record where
  model := user accounts
  schema := accounts
  attributes := .ofFields [("id", id)]

def opened (id : Value) : Except Error Record :=
  build Function.catalogue (user accounts) id (OrderedMap.toValue .empty) (.bool true) true

theorem values_valid_iff_account :
    let r := account (.int 7)
    opened (.int 7) = .ok r ∧
      validateObject Function.catalogue (r.values false).toValue accounts.fieldsValue = .ok () := by
  intro r
  have built : opened (.int 7) = .ok r := rfl
  refine ⟨built, (values_valid_iff built).1.2 ?_⟩
  intro field hf v found
  obtain rfl := List.mem_singleton.1 hf
  cases found
  rfl

/-- A text in place of the number of an account is stored as it is. -/
theorem account_unchecked :
    let r := account (.text "x")
    opened (.text "x") = .ok r ∧
      validateObject Function.catalogue (r.values false).toValue accounts.fieldsValue =
        .error (.violation
          { breach := .unexpectedType (.text "integer"), value := .text "x", key := .text "id" }) :=
  ⟨rfl, rfl⟩

end Record

end RecordMapper
