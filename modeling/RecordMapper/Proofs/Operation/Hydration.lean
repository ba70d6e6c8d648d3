import RecordMapper.Proofs.Operation.Joining
import RecordMapper.Proofs.Record.Columns
import RecordMapper.Proofs.Relation.Payload

/-!
Records of fetched rows. Each row makes one record, in the order of the rows: the payloads in it are
decoded, the model may change it, and what is there then are the attributes, followed by the primary keys
that are not. Nothing is validated, so rows fail only where a payload, the change or the form of what it
gives fails.
-/
namespace RecordMapper

namespace Schema

variable (s : Schema) (values : Mapping)

private theorem completeKeys_agreeing (given : Mapping)
    (agree : ∀ key v, given.get? (.text key) = some v → v = keyValue none (values.get? (.text key)))
    (keys : List String) :
    keys.foldl (completeKey values) given =
      given.insertAll (keys.map fun key => (.text key, keyValue none (values.get? (.text key)))) := by
  induction keys generalizing given with
  | nil => rfl
  | cons key keys ih =>
    -- A key that is given already would be given the same value again.
    have step : completeKey values given key =
        given.insert (.text key) (keyValue none (values.get? (.text key))) := by
      rw [completeKey]
      split
      · rfl
      · rfl
      · rename_i v there found
        rw [← agree key v found, Mapping.insert_known found]
    rw [List.foldl_cons, step, List.map_cons, OrderedMap.insertAll_cons]
    refine ih _ fun name v hv => ?_
    rw [OrderedMap.get?_insert_of_isText rfl, Value.text_beq_text] at hv
    split at hv
    · rename_i same
      rw [← Option.some.inj hv, eq_of_beq same]
    · exact agree name v hv

private theorem primaryOf_null :
    s.primaryOf .null values =
      Mapping.ofNames (fun key => keyValue none (values.get? (.text key))) s.primary :=
  completeKeys_agreeing values .empty (fun _ _ found => nomatch found) s.primary

/-- The primary keys that data has no values for, each of them once. -/
def missingKeys : List String := s.primary.eraseDups.filter fun key => !values.contains (.text key)

theorem entries_attributes_null :
    ((values.mapValues fun _ v => defined v).insertAll (s.primaryOf .null values).entries).entries =
      values.entries.map (fun e => (e.1, defined e.2)) ++
        (s.missingKeys values).map fun key => (.text key, .null) := by
  have agree : ∀ key v, (values.mapValues fun _ v => defined v).get? (.text key) = some v →
      v = keyValue none (values.get? (.text key)) := by
    intro key v found
    rw [OrderedMap.get?_mapValues] at found
    obtain ⟨w, hw, rfl⟩ := Option.map_eq_some_iff.1 found
    rw [hw]
    rfl
  have missing : ((s.primary.eraseDups.filter fun key =>
      !(values.mapValues fun _ v => defined v).contains (.text key)).eraseDups) = s.missingKeys values := by
    simp only [OrderedMap.contains_mapValues]
    exact eraseDups_of_nodup ((nodup_eraseDups _).filter _)
  rw [primaryOf_null, Mapping.entries_ofNames, Mapping.entries_insertAll_agreeing _ agree, missing,
    OrderedMap.entries_mapValues]
  congr 1
  refine List.map_congr_left fun key here => ?_
  have absent : values.get? (.text key) = none := by
    have unknown := (List.mem_filter.1 here).2
    rw [OrderedMap.contains_eq_isSome] at unknown
    simpa using unknown
  rw [absent]
  rfl

end Schema

/-- The record that is made of a row, with some relations joined to it. -/
structure Hydrated (fns : Functions) (m : ModelClass) (schema : Schema)
    (joined : List (String × Relation)) (row : Row) (r : Record) : Prop where
  attributes : ∃ (decoded values : Mapping) (changed : Value),
    List.Forall₂ (Relation.DecodesTo fns joined) row.entries decoded.entries ∧
    m.hook decoded.toValue = .ok changed ∧ changed.orEmpty.toMapping = .ok values ∧
    r.attributes.entries = values.entries.map (fun e => (e.1, Schema.defined e.2)) ++
      (schema.missingKeys values).map fun key => (.text key, .null)
  model : r.model = m
  schema : r.schema = schema
  identity : r.identity = none

theorem Record.build_unvalidated_eq_ok {fns : Functions} {m : ModelClass} {schema : Schema} {data : Value}
    {r : Record} (hschema : m.schema = .ok schema) :
    build fns m .null data (.bool false) false = .ok r ↔
      ∃ values, data.orEmpty.toMapping = .ok values ∧
        r = { model := m, schema
              attributes := (values.mapValues fun _ v => Schema.defined v).insertAll
                (schema.primaryOf .null values).entries } := by
  rw [build, hschema, ok_bind, bind_eq_ok]
  refine exists_congr fun values => and_congr_right fun _ => ?_
  exact pure_eq_ok.trans eq_comm

namespace Operation

private theorem hydrate_eq_ok_iff {fns : Functions} {m : ModelClass} {schema : Schema}
    (hschema : m.schema = .ok schema) {joined : List (String × Relation)}
    (distinct : (joined.map (·.1)).Nodup) {row : Row} {r : Record} :
    hydrate fns m joined row.toValue = .ok r ↔ Hydrated fns m schema joined row r := by
  rw [hydrate, Relation.decodes_toValue, bind_eq_ok]
  simp only [map_eq_ok, bind_eq_ok, Record.build_unvalidated_eq_ok hschema]
  constructor
  · rintro ⟨_, ⟨decoded, hdecoded, rfl⟩, changed, hchanged, values, hvalues, rfl⟩
    refine ⟨⟨decoded, values, changed, ?_, hchanged, hvalues, ?_⟩, rfl, rfl, rfl⟩
    · exact (Relation.decodeRows_eq_ok distinct).1 hdecoded
    · exact schema.entries_attributes_null values
  · rintro ⟨⟨decoded, values, changed, hdecoded, hchanged, hvalues, attributes⟩, rfl, rfl, identity⟩
    refine ⟨_, ⟨decoded, (Relation.decodeRows_eq_ok distinct).2 hdecoded, rfl⟩, changed, hchanged, values,
      hvalues, ?_⟩
    rw [← Schema.entries_attributes_null] at attributes
    rw [← OrderedMap.ext attributes]
    cases r
    cases identity
    rfl

/-- A search finds one record for each row. It fails only without a request, or where a row cannot be
decoded or changed, whatever the rules of the fields say. -/
theorem found_iff_hydrated {κ : Type} (fns : Functions) (m : ModelClass) (filter : Value) (s : Search)
    (route : Route κ) (c : Catalog) (rows : List Row) (records : List Record) :
    (observe (replying (.ofRows rows)) (findMany fns m filter s route) c).1 = .ok records ↔
      ∃ schema wanted request, m.schema = .ok schema ∧ Wanted.ofValue s.populate = .ok wanted ∧
        (findMany fns m filter s route c).1 = .ok request ∧
        List.Forall₂ (Hydrated fns m schema (populated schema wanted)) rows records := by
  have made {schema : Schema} (hschema : m.schema = .ok schema) (wanted : Wanted) :
      found fns m (populated schema wanted) (.ofRows rows) = .ok records ↔
        List.Forall₂ (Hydrated fns m schema (populated schema wanted)) rows records := by
    change (rows.map OrderedMap.toValue).mapM _ = _ ↔ _
    rw [mapM_eq_ok, List.forall₂_map_left_iff]
    simp only [hydrate_eq_ok_iff hschema (nodup_populated schema wanted)]
  constructor
  · intro h
    obtain ⟨request, hrequest, h⟩ := observe_eq_ok h
    obtain ⟨schema, wanted, hschema, hwanted, finish⟩ := finish_of_findMany hrequest
    rw [finish] at h
    exact ⟨schema, wanted, request, hschema, hwanted, hrequest, (made hschema wanted).1 h⟩
  · rintro ⟨schema, wanted, request, hschema, hwanted, hrequest, each⟩
    obtain ⟨schema', wanted', hschema', hwanted', finish⟩ := finish_of_findMany hrequest
    obtain rfl := Except.ok.inj (hschema.symm.trans hschema')
    obtain rfl := Except.ok.inj (hwanted.symm.trans hwanted')
    rw [observe_of_ok hrequest, finish]
    exact (made hschema wanted).2 each

end Operation

end RecordMapper
