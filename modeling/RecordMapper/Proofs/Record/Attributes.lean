import RecordMapper.Proofs.Except
import RecordMapper.Proofs.Value.Mapping
import RecordMapper.Record.Hiding

/-!
The attributes of a record that is made. They come from two sides, the primary keys and the data as
it is validated, and where both have a name the primary keys count.
-/
namespace RecordMapper

def Value.isNull : Value → Bool
  | .null => true
  | _ => false

@[simp] theorem Value.isNull_iff (v : Value) : v.isNull = true ↔ v = .null := by
  cases v <;> simp [isNull]

theorem clashes_eq_nil {fields : Fields} {relations : OrderedMap String Relation} :
    clashes fields relations = [] ↔ ∀ name ∈ relations.keys, fields.contains name = false := by
  have sorted := List.mergeSort_perm (relations.keys.filter fields.contains) fun a b => decide (a ≤ b)
  have same : clashes fields relations = [] ↔ relations.keys.filter fields.contains = [] := by
    constructor
    · intro none
      rw [clashes, sortTexts] at none
      rw [none] at sorted
      exact sorted.nil_eq.symm
    · intro none
      rw [clashes, sortTexts, none, List.mergeSort_nil]
  rw [same, List.filter_eq_nil_iff]
  simp only [Bool.not_eq_true]

namespace Schema

theorem defined_ne_undefined (v : Value) : defined v ≠ .undefined := by
  cases v <;> simp [defined]

theorem defined_eq_self {v : Value} (h : v ≠ .undefined) : defined v = v := by
  cases v with
  | undefined => exact absurd rfl h
  | _ => rfl

def keyValue (given value : Option Value) : Value :=
  match given with
  | none | some .undefined => defined (value.getD .null)
  | some v => v

theorem keyValue_ne_undefined (given value : Option Value) : keyValue given value ≠ .undefined := by
  unfold keyValue
  split
  · exact defined_ne_undefined _
  · exact defined_ne_undefined _
  · rename_i there
    rintro rfl
    exact there rfl

private theorem keyValue_again (given value : Option Value) :
    keyValue (some (keyValue given value)) value = keyValue given value := by
  have there := keyValue_ne_undefined given value
  cases h : keyValue given value with
  | undefined => exact absurd h there
  | _ => rfl

theorem get?_completeKey (values given : Mapping) (key name : String) :
    (completeKey values given key).get? (.text name) =
      if key = name then
        some (keyValue (given.get? (.text name)) (values.get? (.text name)))
      else given.get? (.text name) := by
  by_cases same : key = name
  · subst same
    rw [if_pos rfl, completeKey]
    split <;> rename_i found
    · rw [OrderedMap.get?_insert_of_isText rfl, found]
      simp [keyValue]
    · rw [OrderedMap.get?_insert_of_isText rfl, found]
      simp [keyValue]
    · rename_i there
      rw [found, keyValue]
      exact there
  · rw [if_neg same, completeKey]
    split
    · rw [OrderedMap.get?_insert_of_isText rfl]
      simp [same]
    · rw [OrderedMap.get?_insert_of_isText rfl]
      simp [same]
    · rfl

theorem get?_completeKeys (values given : Mapping) (keys : List String) (name : String) :
    (keys.foldl (completeKey values) given).get? (.text name) =
      if name ∈ keys then some (keyValue (given.get? (.text name)) (values.get? (.text name)))
      else given.get? (.text name) := by
  induction keys generalizing given with
  | nil => simp
  | cons key keys ih =>
    rw [List.foldl_cons, ih, get?_completeKey]
    -- A key that is listed twice has been completed already.
    by_cases same : key = name
    · subst same
      simp [keyValue_again]
    · simp [same, Ne.symm same]

theorem get?_primaryOf (s : Schema) (primary : Value) (values : Mapping) (name : String) :
    (s.primaryOf primary values).get? (.text name) =
      if name ∈ s.primary then
        some (keyValue ((s.givenKeys primary).get? (.text name)) (values.get? (.text name)))
      else (s.givenKeys primary).get? (.text name) :=
  get?_completeKeys values (s.givenKeys primary) s.primary name

theorem not_mem_fieldNames_of_relation (s : Schema) {name : String}
    (h : name ∈ s.relations.keys) : name ∉ s.fieldNames := by
  intro declared
  have found : s.fields.contains name = true := by
    obtain ⟨field, there, rfl⟩ := List.mem_map.1 declared
    exact List.any_eq_true.2 ⟨field, there, by simp⟩
  rw [clashes_eq_nil.1 s.disjoint name h] at found
  cases found

/-! Reading attributes back. -/

theorem valuesIn_eq_ofNames (s : Schema) (attributes : Mapping) :
    s.valuesIn attributes false =
      Mapping.ofNames (fun name => (attributes.get? (.text name)).getD .null)
        (s.fieldNames.filter fun name => (attributes.get? (.text name)).isSome) := by
  unfold valuesIn Mapping.ofNames
  congr 1
  induction s.fieldNames with
  | nil => rfl
  | cons name names ih =>
    rw [List.filterMap_cons, List.filter_cons, ih]
    cases found : attributes.get? (.text name) with
    | none => simp
    | some v => cases v <;> simp [found]

theorem get?_valuesIn (s : Schema) (attributes : Mapping) (name : String) :
    (s.valuesIn attributes false).get? (.text name) =
      if name ∈ s.fieldNames then attributes.get? (.text name) else none := by
  rw [valuesIn_eq_ofNames, Mapping.get?_ofNames]
  cases found : attributes.get? (.text name) <;> simp [found]

private theorem keysIn_eq_ofNames (s : Schema) (attributes : Mapping) :
    s.keysIn attributes =
      Mapping.ofNames (fun name => (attributes.get? (.text name)).getD .null) s.primary := rfl

end Schema

namespace Record

theorem build_eq_ok {fns : Functions} {m : ModelClass} {primary data validate : Value} {strip : Bool}
    {r : Record} (h : build fns m primary data validate strip = .ok r) :
    ∃ values scope checked, m.schema = .ok r.schema ∧ data.orEmpty.toMapping = .ok values ∧
      Scope.ofValue validate = .ok scope ∧
      r.schema.validated fns (if strip then r.schema.stripped values else values) scope =
        .ok checked ∧
      r.model = m ∧
      r.attributes = (checked.mapValues fun _ v => Schema.defined v).insertAll
        (r.schema.primaryOf primary values).entries := by
  obtain ⟨schema, hschema, h⟩ := bind_eq_ok.1 h
  obtain ⟨values, hvalues, h⟩ := bind_eq_ok.1 h
  obtain ⟨attributes, hattributes, h⟩ := bind_eq_ok.1 h
  obtain ⟨scope, hscope, hattributes⟩ := bind_eq_ok.1 hattributes
  obtain ⟨checked, hchecked, hattributes⟩ := bind_eq_ok.1 hattributes
  obtain rfl := pure_eq_ok.1 h
  exact ⟨values, scope, checked, hschema, hvalues, hscope, hchecked, rfl,
    (pure_eq_ok.1 hattributes).symm⟩

theorem get?_attributes {s : Schema} {checked values attributes : Mapping} {primary : Value}
    (h : attributes = (checked.mapValues fun _ v => Schema.defined v).insertAll
      (s.primaryOf primary values).entries) (name : String) :
    attributes.get? (.text name) =
      ((s.primaryOf primary values).get? (.text name)).or
        ((checked.get? (.text name)).map Schema.defined) := by
  rw [h, OrderedMap.get?_insertAll_entries rfl, OrderedMap.get?_mapValues]

def valueOf (r : Record) (name : String) : Value := (r.attributes.get? (.text name)).getD .null

def hasValue (r : Record) (name : String) : Bool := (r.attributes.get? (.text name)).isSome

theorem entries_values (r : Record) :
    (r.values false).entries =
      (r.schema.fieldNames.filter r.hasValue).eraseDups.map fun name => (.text name, r.valueOf name) := by
  rw [values, Schema.valuesIn_eq_ofNames, Mapping.entries_ofNames]
  rfl

def keyNames (r : Record) : List String := r.schema.primary.eraseDups

def keyEntries (r : Record) : Entries := r.keyNames.map fun name => (.text name, r.valueOf name)

def unsetKeys (r : Record) : List String := r.keyNames.filter fun name => (r.valueOf name).isNull

theorem mem_keyNames {r : Record} {name : String} : name ∈ r.keyNames ↔ name ∈ r.schema.primary :=
  List.mem_eraseDups

theorem mem_unsetKeys {r : Record} {name : String} :
    name ∈ r.unsetKeys ↔ name ∈ r.schema.primary ∧ r.valueOf name = .null := by
  rw [unsetKeys, List.mem_filter, mem_keyNames, Value.isNull_iff]

theorem entries_primary (r : Record) : r.primary.entries = r.keyEntries := by
  rw [primary, Schema.keysIn_eq_ofNames, Mapping.entries_ofNames]
  rfl

theorem keyEntries_ne_nil (r : Record) : r.keyEntries ≠ [] := by
  intro none
  have key : r.schema.key ∈ r.keyNames := mem_keyNames.2 (List.head_mem _)
  rw [List.map_eq_nil_iff.1 none] at key
  cases key

theorem hasValue_of_build {fns : Functions} {m : ModelClass} {primary data validate : Value}
    {strip : Bool} {r : Record} (h : build fns m primary data validate strip = .ok r) {key : String}
    (hk : key ∈ r.schema.primary) : r.hasValue key := by
  obtain ⟨values, _, _, _, _, _, _, _, attributes⟩ := build_eq_ok h
  rw [hasValue, get?_attributes attributes, Schema.get?_primaryOf, if_pos hk]
  rfl

end Record

/-! A model to try things on. -/

def users : Schema where
  table := "users"
  fields := .ofEntries [("name", .empty)]
  primary := ["id"]
  relations := .empty
  table_ne := by decide
  types_known := rfl
  primary_ne := List.cons_ne_nil _ _
  disjoint := clashes_eq_nil.2 nofun

def user (s : Schema) : ModelClass where
  ref := ⟨0, "User"⟩
  lineage := [0]
  declared? := some ⟨s, fun name => (0, name)⟩
  hook := pure

def ada (s : Schema) (id : Value) : Record where
  model := user s
  schema := s
  attributes := .ofFields [("name", .text "ada"), ("id", id)]

end RecordMapper
