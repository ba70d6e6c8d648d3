import RecordMapper.Proofs.Record.Valid

/-!
Modes of validation. How much is validated decides whether a record is made, and nothing else: healing
only does what is done to the data in any case. Fields are judged one by one, so that validation of
named fields succeeds exactly if it does for each name, and full validation is validation of all names.
-/
namespace RecordMapper

open Validation

namespace Schema

variable {fns : Functions}

/-! What validation leaves behind. -/

private theorem mapValues_heal {m : Mapping} {field : Value × Value} (text : field.1.isText)
    (undefined : needsNull m field → m.get? field.1 = some .undefined) :
    ((heal m field).mapValues fun _ v => defined v) = m.mapValues fun _ v => defined v := by
  unfold heal
  split
  · rename_i needs
    have value := undefined needs
    have found : m.contains field.1 = true := by
      rw [OrderedMap.contains_eq_isSome, value]
      rfl
    apply OrderedMap.ext
    rw [OrderedMap.entries_mapValues, OrderedMap.entries_mapValues,
      OrderedMap.entries_insert_of_contains _ found, List.map_map]
    refine List.map_congr_left fun e he => ?_
    by_cases h : (e.1 == field.1) = true
    · obtain ⟨key, v⟩ := e
      obtain rfl := (Value.beq_text_iff text key).1 h
      rw [OrderedMap.get?_of_mem he h] at value
      cases value
      simp [h, defined]
    · simp [h]
  · rfl

private theorem mapValues_healAll {m : Mapping} {fields : Entries} (named : WellNamed fields)
    (accepted : ∀ f ∈ fields, Accepted fns m f) :
    ((healAll m fields).mapValues fun _ v => defined v) = m.mapValues fun _ v => defined v := by
  induction fields generalizing m with
  | nil => rfl
  | cons field fields ih =>
    have text := named.texts field (List.mem_cons_self ..)
    have others := (List.pairwise_cons.1 named.distinct).1
    rw [List.forall_mem_cons] at accepted
    change ((healAll (heal m field) fields).mapValues _) = _
    rw [ih named.tail, mapValues_heal text (undefined_of_accepted fns text accepted.1)]
    intro f hf
    have same := get?_heal_of_ne (m := m) text (others f hf)
    exact (accepted_congr fns (named.tail.texts f hf) same).2 (accepted.2 f hf)

theorem healed_iff {fields : Fields} {values checked : Mapping} :
    healed fns fields values = .ok checked ↔
      (∀ f ∈ fields.asMapping.entries, Accepted fns values f) ∧
        checked = healAll values fields.asMapping.entries := by
  have normalized := normalize_eq_singlePass fns (m := values) fields.wellNamed
  rw [fields.toValue_asMapping] at normalized
  rw [healed, normalized, ← singlePass_eq_ok fns fields.wellNamed]
  rcases singlePass_cases fns (m := values) fields.wellNamed with
    ⟨pass, _⟩ | ⟨before, field, rest, e, _, pass, _⟩
  · rw [pass]
    simp only [Value.mapping?_toValue, Option.getD_some, pure_eq_ok, true_and]
    exact eq_comm
  · rw [pass]
    simp

theorem mapValues_validated {s : Schema} {values checked : Mapping} {scope : Scope}
    (h : s.validated fns values scope = .ok checked) :
    (checked.mapValues fun _ v => defined v) = values.mapValues fun _ v => defined v := by
  cases scope with
  | present =>
    obtain ⟨_, _, h⟩ := bind_eq_ok.1 h
    obtain rfl := pure_eq_ok.1 h
    rfl
  | nothing =>
    obtain rfl := pure_eq_ok.1 h
    rfl
  | all | only names =>
    obtain ⟨accepted, rfl⟩ := healed_iff.1 h
    exact mapValues_healAll (Fields.wellNamed _) accepted

/-! When validation succeeds. -/

theorem namedFields_eq (s : Schema) (names : List Value) :
    ∃ choose : Value → Option (String × Mapping),
      s.namedFields names = .ofEntries (names.filterMap choose) ∧
        ∀ v field, choose v = some field ↔ v = .text field.1 ∧ field ∈ s.fields.entries := by
  refine ⟨_, rfl, fun v field => ?_⟩
  obtain ⟨name, rules⟩ := field
  rw [OrderedMap.mem_entries_iff]
  constructor
  · intro h
    split at h
    · obtain ⟨_, found, same⟩ := Option.map_eq_some_iff.1 h
      cases same
      exact ⟨rfl, found⟩
    · cases h
  · rintro ⟨rfl, found⟩
    simp only [found, Option.map_some]

private theorem mem_namedFields {s : Schema} {names : List Value} {field : String × Mapping} :
    field ∈ (s.namedFields names).entries ↔ field ∈ s.fields.entries ∧ .text field.1 ∈ names := by
  obtain ⟨choose, named, chosen⟩ := s.namedFields_eq names
  have listed (f : String × Mapping) :
      f ∈ names.filterMap choose ↔ f ∈ s.fields.entries ∧ .text f.1 ∈ names := by
    rw [List.mem_filterMap]
    constructor
    · rintro ⟨v, hv, h⟩
      obtain ⟨rfl, declared⟩ := (chosen v f).1 h
      exact ⟨declared, hv⟩
    · rintro ⟨declared, hv⟩
      exact ⟨_, hv, (chosen _ f).2 ⟨rfl, declared⟩⟩
  rw [named, OrderedMap.mem_entries_ofEntries, listed]
  intro e he f hf same
  have found := OrderedMap.mem_entries_iff.1 ((listed e).1 he).1
  rw [same, OrderedMap.mem_entries_iff.1 ((listed f).1 hf).1] at found
  exact (Option.some.inj found).symm

private theorem namedFields_fieldNames (s : Schema) : s.namedFields (s.fieldNames.map .text) = s.fields := by
  obtain ⟨choose, named, chosen⟩ := s.namedFields_eq (s.fieldNames.map .text)
  have each : (s.fieldNames.map Value.text).filterMap choose = s.fields.entries := by
    rw [fieldNames, OrderedMap.keys, List.map_map, List.filterMap_map]
    refine (List.filterMap_congr fun field hf => ?_).trans (List.filterMap_some ..)
    exact (chosen _ field).2 ⟨rfl, hf⟩
  rw [named, each, OrderedMap.ofEntries_entries]

theorem validated_fieldNames (s : Schema) (values : Mapping) :
    s.validated fns values (.only (s.fieldNames.map .text)) = s.validated fns values .all := by
  rw [validated, validated, namedFields_fieldNames]

/-- A declared field passes, once it is healed. -/
def Accepts (fns : Functions) (values : Mapping) (field : String × Mapping) : Prop :=
  Accepted fns values (.text field.1, OrderedMap.toValue field.2)

theorem validated_all_iff {s : Schema} {values : Mapping} :
    (∃ checked, s.validated fns values .all = .ok checked) ↔
      ∀ field ∈ s.fields.entries, Accepts fns values field := by
  simp only [validated, healed_iff, exists_and_left, exists_eq, and_true, Fields.asMapping,
    List.forall_mem_map]
  rfl

theorem validated_only_iff {s : Schema} {values : Mapping} {names : List Value} :
    (∃ checked, s.validated fns values (.only names) = .ok checked) ↔
      ∀ field ∈ s.fields.entries, .text field.1 ∈ names → Accepts fns values field := by
  simp only [validated, healed_iff, exists_and_left, exists_eq, and_true, Fields.asMapping,
    List.forall_mem_map, mem_namedFields, and_imp]
  rfl

theorem validated_present {s : Schema} {values : Mapping}
    (accepted : ∀ field ∈ s.fields.entries, Accepts fns values field) :
    s.validated fns values .present = .ok values := by
  have valid : validateObject fns values.toValue (s.presentFields values).toValue = .ok () := by
    rw [validateObject_eq_ok]
    intro field hf
    obtain ⟨declared, there⟩ := List.mem_filter.1 hf
    have settled : needsNull values (.text field.1, OrderedMap.toValue field.2) = false := by
      rw [needsNull]
      beta_reduce at there
      split at there <;> simp_all
    have same : heal values (.text field.1, OrderedMap.toValue field.2) = values := by
      rw [heal, settled]
      rfl
    rw [validateField_of_needsNull fns rfl settled, ← same]
    exact accepted field declared
  rw [validated, valid]
  rfl

end Schema

namespace Scope

private theorem isHashable_of_only {option : Value} {names : List Value}
    (h : ofValue option = .ok (.only names)) : names.all Value.isHashable := by
  unfold ofValue at h
  split at h
  · cases h
  · cases h
  · cases h
  · cases h
    rfl
  · cases h
  · obtain ⟨items, _, h⟩ := bind_eq_ok.1 h
    split at h
    · rename_i hashable
      cases h
      exact hashable
    · cases h

theorem ofValue_list {names : List Value} (hashable : names.all Value.isHashable) :
    ofValue (.list names) = .ok (.only names) :=
  if_pos hashable

private theorem ofValue_list_of_unhashable {names : List Value} (h : ¬names.all Value.isHashable) :
    ofValue (.list names) = .error .typeMismatch :=
  if_neg h

theorem ofValue_texts (names : List String) :
    ofValue (.list (names.map .text)) = .ok (.only (names.map .text)) :=
  ofValue_list (by simp [Value.isHashable])

end Scope

namespace Record

variable {fns : Functions} {m : ModelClass} {s : Schema}

def entered (s : Schema) (data : Mapping) (strip : Bool) : Mapping :=
  if strip then s.stripped data else data

def ofValidated (m : ModelClass) (s : Schema) (primary : Value) (data checked : Mapping) :
    Record where
  model := m
  schema := s
  attributes :=
    (checked.mapValues fun _ v => Schema.defined v).insertAll (s.primaryOf primary data).entries

theorem build_eq (declared : m.schema = .ok s) (primary : Value) (data : Mapping) (validate : Value)
    (strip : Bool) :
    build fns m primary data.toValue validate strip =
      (Scope.ofValue validate >>= s.validated fns (entered s data strip)).map
        (ofValidated m s primary data) := by
  rw [build, declared, Value.orEmpty_toMapping (Value.toMapping_toValue data)]
  change (s.attributes fns primary data validate strip >>= _) = _
  rw [Schema.attributes, ← entered]
  cases Scope.ofValue validate with
  | error e => rfl
  | ok scope =>
    change (s.validated fns (entered s data strip) scope >>= _) >>= _ =
      (s.validated fns (entered s data strip) scope).map _
    cases s.validated fns (entered s data strip) scope <;> rfl

/-- Validation decides whether there is a record, but not which. -/
theorem build_iff (declared : m.schema = .ok s) {validate : Value} {scope : Scope}
    (asked : Scope.ofValue validate = .ok scope) {primary : Value} {data : Mapping} {strip : Bool}
    {r : Record} :
    build fns m primary data.toValue validate strip = .ok r ↔
      (∃ checked, s.validated fns (entered s data strip) scope = .ok checked) ∧
        ofValidated m s primary data (entered s data strip) = r := by
  rw [build_eq declared, asked]
  change (s.validated fns (entered s data strip) scope).map _ = _ ↔ _
  cases h : s.validated fns (entered s data strip) scope with
  | error e => simp [Except.map]
  | ok checked =>
    have same : ofValidated m s primary data checked = ofValidated m s primary data _ :=
      congrArg (fun values : Mapping => Record.mk m s (values.insertAll _) none)
        (Schema.mapValues_validated h)
    simp [Except.map, same]

theorem build_exists_iff (declared : m.schema = .ok s) {validate : Value} {scope : Scope}
    (asked : Scope.ofValue validate = .ok scope) {primary : Value} {data : Mapping} {strip : Bool} :
    (∃ r, build fns m primary data.toValue validate strip = .ok r) ↔
      ∃ checked, s.validated fns (entered s data strip) scope = .ok checked := by
  simp only [build_iff declared asked, exists_and_left, exists_eq', and_true]

theorem build_names_iff (declared : m.schema = .ok s) {names : List Value} {primary : Value}
    {data : Mapping} {strip : Bool} :
    (∃ r, build fns m primary data.toValue (.list names) strip = .ok r) ↔
      (∀ name ∈ names, name.isHashable) ∧ ∀ field ∈ s.fields.entries, .text field.1 ∈ names →
        Schema.Accepts fns (entered s data strip) field := by
  by_cases hashable : names.all Value.isHashable
  · rw [build_exists_iff declared (Scope.ofValue_list hashable), Schema.validated_only_iff]
    exact (and_iff_right (List.all_eq_true.1 hashable)).symm
  · rw [build_eq declared, Scope.ofValue_list_of_unhashable hashable]
    constructor
    · rintro ⟨_, made⟩
      cases made
    · intro all
      exact absurd (List.all_eq_true.2 all.1) hashable

/-- Whatever is validated, the record is the one that is made without validation. Names are validated one
by one, in whatever collection they come, so that all that matters is which declared fields are among
them. Full validation is validation of all declared names, and if it succeeds then the other modes do. -/
theorem modes_agree (declared : m.schema = .ok s) (primary : Value) (data : Mapping)
    (strip : Bool) :
    let made := fun validate => build fns m primary data.toValue validate strip
    (∀ validate r, made validate = .ok r → made (.bool false) = .ok r) ∧
    (∀ validate names, Scope.ofValue validate = .ok (.only names) →
      made validate = made (.list names)) ∧
    (∀ names, (∃ r, made (.list names) = .ok r) ↔ ∀ name ∈ names, ∃ r, made (.list [name]) = .ok r) ∧
    (∀ names others : List String, (∀ name ∈ s.fieldNames, name ∈ names ↔ name ∈ others) →
      ((∃ r, made (.list (names.map .text)) = .ok r) ↔
        ∃ r, made (.list (others.map .text)) = .ok r)) ∧
    made (.bool true) = made (.list (s.fieldNames.map .text)) ∧
    ∀ r, made (.bool true) = .ok r →
      made .null = .ok r ∧ ∀ names : List String, made (.list (names.map .text)) = .ok r := by
  intro made
  refine ⟨?unvalidated, ?collection, ?byName, ?declaredNames, ?allNames, ?full⟩
  case unvalidated =>
    intro validate r h
    obtain ⟨scope, asked⟩ : ∃ scope, Scope.ofValue validate = .ok scope := by
      obtain ⟨_, scope, _, _, _, asked, _⟩ := build_eq_ok h
      exact ⟨scope, asked⟩
    have nothing : Scope.ofValue (.bool false) = .ok .nothing := rfl
    exact (build_iff declared nothing).2 ⟨⟨_, rfl⟩, ((build_iff declared asked).1 h).2⟩
  case collection =>
    intro validate names asked
    simp only [made, build_eq declared, asked, Scope.ofValue_list (Scope.isHashable_of_only asked)]
  case byName =>
    intro names
    simp only [made, build_names_iff declared, List.mem_singleton, forall_eq]
    constructor
    · rintro ⟨hashable, accepted⟩ name hn
      exact ⟨hashable name hn, fun field hf same => accepted field hf (same ▸ hn)⟩
    · intro each
      exact ⟨fun name hn => (each name hn).1, fun field hf hn => (each _ hn).2 field hf rfl⟩
  case declaredNames =>
    intro names others same
    simp only [made, build_exists_iff declared (Scope.ofValue_texts _), Schema.validated_only_iff,
      List.mem_map, Value.text.injEq, exists_eq_right]
    refine forall₂_congr fun field hf => ?_
    rw [same field.1 (List.mem_map_of_mem hf)]
  case allNames =>
    have all : Scope.ofValue (.bool true) = .ok .all := rfl
    simp only [made, build_eq declared, Scope.ofValue_texts]
    change (s.validated fns _ .all).map _ = (s.validated fns _ (.only _)).map _
    rw [Schema.validated_fieldNames]
  case full =>
    intro r h
    have all : Scope.ofValue (.bool true) = .ok .all := rfl
    have present : Scope.ofValue .null = .ok .present := rfl
    obtain ⟨checked, same⟩ := (build_iff declared all).1 h
    have accepted := Schema.validated_all_iff.1 checked
    refine ⟨(build_iff declared present).2 ⟨⟨_, Schema.validated_present accepted⟩, same⟩, ?_⟩
    intro names
    refine (build_iff declared (Scope.ofValue_texts names)).2 ⟨Schema.validated_only_iff.2 ?_, same⟩
    exact fun field hf _ => accepted field hf

def members : Schema :=
  { users with
    table := "members"
    fields := .ofEntries
      [("name", .ofFields [("type", .text "string"), ("required", .bool true)]),
        ("age", .ofFields [("type", .text "integer")])]
    table_ne := by decide
    types_known := rfl
    disjoint := clashes_eq_nil.2 nofun }

def joined (validate : Value) : Except Error Record :=
  build Function.catalogue (user members) (.int 7)
    (OrderedMap.toValue (.ofFields [("age", .undefined), ("name", .text "ada")])) validate true

def member : Record where
  model := user members
  schema := members
  attributes := .ofFields [("age", .null), ("name", .text "ada"), ("id", .int 7)]

theorem modes_agree_member :
    (user members).schema = .ok members ∧ joined (.bool true) = .ok member ∧
      joined .null = .ok member ∧
      joined (.list (["ghost", "name", "name"].map .text)) = .ok member ∧
      joined (.bool false) = .ok member := by
  have full : joined (.bool true) = .ok member := rfl
  have declared : (user members).schema = .ok members := rfl
  obtain ⟨unvalidated, _, _, _, _, lenient⟩ := @modes_agree Function.catalogue _ _ declared (.int 7)
    (.ofFields [("age", .undefined), ("name", .text "ada")]) true
  exact ⟨rfl, full, (lenient _ full).1, (lenient _ full).2 _, unvalidated _ _ full⟩

end Record

end RecordMapper
