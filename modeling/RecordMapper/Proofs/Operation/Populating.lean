import RecordMapper.Function.Catalogue
import RecordMapper.Operation.Read
import RecordMapper.Proofs.Operation.Sending
import RecordMapper.Proofs.Record.Attributes
import RecordMapper.Proofs.Sql.Insertion

/-!
What populating changes. Related rows come in the rows of their owners, under the names of the
relations, and are decoded in place before records are made. So the records that are found with and
without relations differ in attributes of these names only. No field is among them, but a primary key
may be.
-/
namespace RecordMapper

/-! Rows. -/

/-- The rows are the same apart from some columns. -/
def SameRow (names : List String) (row row' : Value) : Prop :=
  row' = row ∨ ∃ m m' : Mapping, row.mapping? = some m ∧ row'.mapping? = some m' ∧
    ∀ name ∉ names, m'.get? (.text name) = m.get? (.text name)

theorem SameRow.trans {first later : List String} {a b c : Value} (hab : SameRow first a b)
    (hbc : SameRow later b c) : SameRow (first ++ later) a c := by
  rcases hab with rfl | ⟨m, m', hm, hm', front⟩
  · refine hbc.imp_right fun ⟨m, m', hm, hm', same⟩ => ⟨m, m', hm, hm', fun name out => ?_⟩
    exact same name fun h => out (List.mem_append_right _ h)
  · right
    rcases hbc with rfl | ⟨n, n', hn, hn', back⟩
    · exact ⟨m, m', hm, hm', fun name out => front name fun h => out (List.mem_append_left _ h)⟩
    · obtain rfl := Option.some.inj (hm'.symm.trans hn)
      refine ⟨m, n', hm, hn', fun name out => ?_⟩
      rw [back name fun h => out (List.mem_append_right _ h),
        front name fun h => out (List.mem_append_left _ h)]

theorem Relation.sameRow_of_decode {fns : Functions} {name : String} {r : Relation} {row row' : Value}
    (h : r.decode fns name row = .ok row') : SameRow [name] row row' := by
  unfold decode at h
  split at h
  · rename_i m hm
    obtain ⟨m', hm', rfl⟩ := map_eq_ok.1 h
    refine .inr ⟨m, m', hm, by simp, fun other out => ?_⟩
    unfold decodeRow at hm'
    split at hm'
    · rw [← pure_eq_ok.1 hm']
    · obtain ⟨payload, _, hm'⟩ := bind_eq_ok.1 hm'
      rw [← pure_eq_ok.1 hm', OrderedMap.get?_insert_of_isText rfl]
      have differs : name ≠ other := fun same => out (List.mem_singleton.2 same.symm)
      simp [differs]
  · rename_i noMap
    obtain ⟨found, _, h⟩ := bind_eq_ok.1 h
    split at h
    · -- What is no map has nothing under a name.
      obtain ⟨es, rfl⟩ := Sql.Insert.part_of_isText rfl h
      cases noMap
    · exact .inl (pure_eq_ok.1 h).symm

theorem Relation.sameRow_of_decodes {fns : Functions} {joined : List (String × Relation)}
    {row row' : Value}
    (h : joined.foldlM (fun row j => j.2.decode fns j.1 row) row = .ok row') :
    SameRow (joined.map (·.1)) row row' := by
  induction joined generalizing row with
  | nil => exact .inl (pure_eq_ok.1 h).symm
  | cons j joined ih =>
    rw [List.foldlM_cons] at h
    obtain ⟨next, hnext, h⟩ := bind_eq_ok.1 h
    exact (sameRow_of_decode hnext).trans (ih h)

/-! Records. -/

/-- The records are the same apart from some attributes. -/
structure SameBut (names : List String) (r r' : Record) : Prop where
  model : r'.model = r.model
  schema : r'.schema = r.schema
  attributes : ∀ name ∉ names, r'.attributes.get? (.text name) = r.attributes.get? (.text name)

namespace SameBut

variable {names : List String} {r r' : Record} (h : SameBut names r r')
include h

theorem values (fields : ∀ name ∈ r.schema.fieldNames, name ∉ names) (skipNull : Bool) :
    r'.values skipNull = r.values skipNull := by
  unfold Record.values Schema.valuesIn
  rw [h.schema]
  congr 1
  refine List.filterMap_congr fun name declared => ?_
  rw [h.attributes name (fields name declared)]

theorem primary (keys : ∀ key ∈ r.schema.primary, key ∉ names) : r'.primary = r.primary := by
  unfold Record.primary Schema.keysIn
  rw [h.schema]
  congr 1
  refine List.map_congr_left fun name isKey => ?_
  rw [h.attributes name (keys name isKey)]

variable (operations : ∀ o : RecordOperation, o.name ∉ names)
include operations

theorem hiding? (o : RecordOperation) : r'.hiding? o = r.hiding? o :=
  h.attributes o.name (operations o)

theorem offer (o : RecordOperation) : r'.offer o = r.offer o := by
  rw [Record.offer, Record.offer, h.hiding? operations]

theorem ask (o : RecordOperation) (own : Except Error Value) : r'.ask o own = r.ask o own := by
  rw [Record.ask, Record.ask, h.hiding? operations]

variable (keys : ∀ key ∈ r.schema.primary, key ∉ names)
include keys

theorem requirePrimary : r'.requirePrimary = r.requirePrimary := by
  unfold Record.requirePrimary Record.askKeys Record.askPrimary
  simp only [h.ask operations, h.primary keys, h.model]

theorem delete {κ : Type} (route : Route κ) : Operation.delete r' route = Operation.delete r route := by
  unfold Operation.delete
  rw [h.offer operations, h.requirePrimary operations keys, h.schema, h.model]

theorem update {κ : Type} (fields : ∀ name ∈ r.schema.fieldNames, name ∉ names) (route : Route κ) :
    Operation.update r' route = Operation.update r route := by
  unfold Operation.update Record.askValues
  rw [h.offer operations, h.requirePrimary operations keys, h.ask operations, h.values fields,
    h.schema, h.model]

end SameBut

theorem Record.get?_of_row {fns : Functions} {m : ModelClass} {row : Value} {columns : Mapping}
    {r : Record} (h : build fns m .null row (.bool false) false = .ok r)
    (hrow : row.mapping? = some columns) (name : String) :
    r.attributes.get? (.text name) =
      if name ∈ r.schema.primary then
        some (Schema.keyValue none (columns.get? (.text name)))
      else (columns.get? (.text name)).map Schema.defined := by
  obtain ⟨values, scope, checked, _, hvalues, hscope, hchecked, _, attributes⟩ := build_eq_ok h
  have given := Value.orEmpty_toMapping (Value.toMapping_of_mapping? hrow)
  obtain rfl := Except.ok.inj (hvalues.symm.trans given)
  obtain rfl := Except.ok.inj hscope
  obtain rfl := Except.ok.inj hchecked
  rw [get?_attributes attributes, Schema.get?_primaryOf]
  by_cases isKey : name ∈ r.schema.primary <;> simp [isKey, Schema.givenKeys]

theorem Record.sameBut_of_rows {fns : Functions} {m : ModelClass} {names : List String}
    {row row' : Value} {r r' : Record} (same : SameRow names row row')
    (h : build fns m .null row (.bool false) false = .ok r)
    (h' : build fns m .null row' (.bool false) false = .ok r') : SameBut names r r' := by
  obtain ⟨_, _, _, schema, _, _, _, model, _⟩ := build_eq_ok h
  obtain ⟨_, _, _, schema', _, _, _, model', _⟩ := build_eq_ok h'
  have schemas : r'.schema = r.schema := Except.ok.inj (schema'.symm.trans schema)
  refine ⟨model'.trans model.symm, schemas, fun name out => ?_⟩
  rcases same with rfl | ⟨columns, columns', hrow, hrow', kept⟩
  · rw [Except.ok.inj (h'.symm.trans h)]
  · rw [get?_of_row h hrow, get?_of_row h' hrow', kept name out, schemas]

/-! Searches. -/

namespace Operation

theorem hydrate_eq_ok {fns : Functions} {m : ModelClass} {joined : List (String × Relation)}
    {row : Value} {r : Record} (hook : m.hook = pure) (h : hydrate fns m joined row = .ok r) :
    ∃ row', joined.foldlM (fun row j => j.2.decode fns j.1 row) row = .ok row' ∧
      Record.build fns m .null row' (.bool false) false = .ok r := by
  obtain ⟨row', hrow, h⟩ := bind_eq_ok.1 h
  obtain ⟨changed, hchanged, h⟩ := bind_eq_ok.1 h
  rw [hook] at hchanged
  obtain rfl := pure_eq_ok.1 hchanged
  exact ⟨row', hrow, h⟩

private theorem sameBut_of_hydrate {fns : Functions} {m : ModelClass} {joined : List (String × Relation)}
    {row : Value} {r r' : Record} (hook : m.hook = pure) (h : hydrate fns m [] row = .ok r)
    (h' : hydrate fns m joined row = .ok r') : SameBut (joined.map (·.1)) r r' := by
  obtain ⟨plain, hplain, built⟩ := hydrate_eq_ok hook h
  obtain ⟨decoded, hdecoded, built'⟩ := hydrate_eq_ok hook h'
  obtain rfl := pure_eq_ok.1 hplain
  exact Record.sameBut_of_rows (Relation.sameRow_of_decodes hdecoded) built built'

private theorem populate_cons_eq_ok {m : ModelClass} {table name : String} {r : Relation}
    {rest : List (String × Relation)} {p p' : Population} {c : Catalog}
    (h : (populate m table ((name, r) :: rest) p c).1 = .ok p') :
    ∃ sub c', (populate m table rest (p.join table name r sub) c').1 = .ok p' := by
  obtain ⟨now, _, h⟩ := Action.bind_eq_ok.1 h
  obtain ⟨d, _, h⟩ := Action.bind_eq_ok.1 h
  obtain ⟨target, _, h⟩ := Action.bind_eq_ok.1 h
  obtain ⟨schema, _, h⟩ := Action.bind_eq_ok.1 h
  obtain ⟨sub, _, h⟩ := Action.bind_eq_ok.1 h
  exact ⟨sub, _, h⟩

private theorem joined_of_populate {m : ModelClass} {table : String} {relations : List (String × Relation)}
    {p p' : Population} {c : Catalog} (h : (populate m table relations p c).1 = .ok p') :
    p'.joined = p.joined ++ relations := by
  induction relations generalizing p c with
  | nil =>
    obtain rfl := pure_eq_ok.1 h
    simp
  | cons relation relations ih =>
    obtain ⟨sub, c', h⟩ := populate_cons_eq_ok h
    rw [ih h]
    simp [Population.join]

def populated (s : Schema) (w : Wanted) : List (String × Relation) :=
  s.relations.entries.filter fun r => w.includes r.1

def found (fns : Functions) (m : ModelClass) (joined : List (String × Relation)) (reply : Reply) :
    Except Error (List Record) := do
  (← reply.toItems).mapM (hydrate fns m joined)

section

variable {κ : Type} {fns : Functions} {m : ModelClass} {filter : Value} {s : Search} {route : Route κ}
  {c : Catalog} {request : Request κ (List Record)}

theorem findMany_eq_ok (h : (findMany fns m filter s route c).1 = .ok request) :
    ∃ schema wanted columns p selected conditions query statement c', m.schema = .ok schema ∧
      Wanted.ofValue s.populate = .ok wanted ∧
      (populate m schema.table (populated schema wanted) { columns } c).1 = .ok p ∧
      p.query.select (.list p.columns) = .ok selected ∧
      qualifiedFilter schema.table filter = .ok conditions ∧
      arranged ((selected.fromTable schema.table).whereAll conditions) s = .ok query ∧
      query.render = .ok statement ∧ Requests c' m route statement (found fns m p.joined) request := by
  obtain ⟨schema, hschema, h⟩ := Action.bind_eq_ok.1 h
  dsimp only at h
  -- With columns of its own and without, the search goes on in the same way.
  split at h
  all_goals
    obtain ⟨columns, _, h⟩ := Action.bind_eq_ok.1 h
    obtain ⟨wanted, hwanted, h⟩ := Action.bind_eq_ok.1 h
    obtain ⟨p, hp, h⟩ := Action.bind_eq_ok.1 h
    obtain ⟨selected, hselected, h⟩ := Action.bind_eq_ok.1 h
    obtain ⟨conditions, hconditions, h⟩ := Action.bind_eq_ok.1 h
    obtain ⟨query, hquery, h⟩ := Action.bind_eq_ok.1 h
    obtain ⟨statement, hstatement, h⟩ := Action.bind_eq_ok.1 h
    exact ⟨schema, wanted, columns, p, selected, conditions, query, statement, _, hschema, hwanted, hp,
      hselected, hconditions, hquery, hstatement, requests_of_sending h⟩

theorem finish_of_findMany (h : (findMany fns m filter s route c).1 = .ok request) :
    ∃ schema wanted, m.schema = .ok schema ∧ Wanted.ofValue s.populate = .ok wanted ∧
      request.finish = found fns m (populated schema wanted) := by
  obtain ⟨schema, wanted, columns, p, _, _, _, _, _, hschema, hwanted, hp, _, _, _, _, requests⟩ :=
    findMany_eq_ok h
  refine ⟨schema, wanted, hschema, hwanted, ?_⟩
  rw [requests.finish, joined_of_populate hp]
  rfl

end

/-- What populating the relations of some names leaves alone in a record. -/
structure Undisturbed (names : List String) (r r' : Record) : Prop extends SameBut names r r' where
  values : ∀ skipNull, r'.values skipNull = r.values skipNull
  primary : (∀ key ∈ r.schema.primary, key ∉ names) → r'.primary = r.primary
  addressed : (∀ key ∈ r.schema.primary, key ∉ names) → (∀ o : RecordOperation, o.name ∉ names) →
    ∀ {κ : Type} (replies : Replies κ) (route : Route κ) (c : Catalog),
      observe replies (delete r' route) c = observe replies (delete r route) c ∧
      observe replies (update r' route) c = observe replies (update r route) c

private theorem undisturbed_of_sameBut {names : List String} {r r' : Record} (h : SameBut names r r')
    (relations : ∀ name ∈ names, name ∈ r.schema.relations.keys) : Undisturbed names r r' := by
  have fields : ∀ name ∈ r.schema.fieldNames, name ∉ names := fun name declared out =>
    r.schema.not_mem_fieldNames_of_relation (relations name out) declared
  refine ⟨h, h.values fields, h.primary, fun keys operations κ replies route c => ?_⟩
  rw [h.delete operations keys, h.update operations keys fields]
  exact ⟨rfl, rfl⟩

/-- Records that are found with relations are those that are found without, apart from the attributes
under the names of the relations. Their values are the same; their primary keys are unless a relation
has the name of one, and then they are deleted and updated alike unless a relation has the name of an
operation. -/
theorem undisturbed_of_populate {κ : Type} {fns : Functions} {m : ModelClass} {filter : Value}
    {s : Search} {route : Route κ} {c c' : Catalog} {reply : Reply} {plain full : List Record}
    (hook : m.hook = pure)
    (h : (observe (replying reply)
      (findMany fns m filter { s with populate := .bool false } route) c).1 = .ok plain)
    (h' : (observe (replying reply) (findMany fns m filter s route) c').1 = .ok full) :
    ∃ schema wanted, m.schema = .ok schema ∧ Wanted.ofValue s.populate = .ok wanted ∧
      List.Forall₂ (Undisturbed ((populated schema wanted).map (·.1))) plain full := by
  obtain ⟨request, hrequest, h⟩ := observe_eq_ok h
  obtain ⟨request', hrequest', h'⟩ := observe_eq_ok h'
  obtain ⟨schema, none, hschema, hnone, finish⟩ := finish_of_findMany hrequest
  obtain ⟨schema', wanted, hschema', hwanted, finish'⟩ := finish_of_findMany hrequest'
  obtain rfl := Except.ok.inj (hschema.symm.trans hschema')
  obtain rfl := Except.ok.inj hnone
  refine ⟨schema, wanted, hschema, hwanted, ?_⟩
  have nothing : populated schema (.named []) = [] := by simp [populated, Wanted.includes, Value.isIn]
  rw [finish, nothing] at h
  rw [finish'] at h'
  obtain ⟨rows, hrows, h⟩ := bind_eq_ok.1 h
  obtain ⟨rows', hrows', h'⟩ := bind_eq_ok.1 h'
  obtain rfl := Except.ok.inj (hrows.symm.trans hrows')
  refine forall₂_of_common (mapM_eq_ok.1 h) (mapM_eq_ok.1 h') fun row r r' hr hr' => ?_
  have same : schema = r.schema := by
    obtain ⟨_, _, built⟩ := hydrate_eq_ok hook hr
    obtain ⟨_, _, _, own, _⟩ := Record.build_eq_ok built
    exact Except.ok.inj (hschema.symm.trans own)
  subst same
  refine undisturbed_of_sameBut (sameBut_of_hydrate hook hr hr') fun name relation => ?_
  exact (List.filter_sublist.map _).subset relation

def sameNumber (relation : String) : OrderedMap String Relation :=
  .ofEntries [(relation,
    { kind := .hasMany, model := "User", localColumn := "id", foreignColumn := "id"
      columns := none, transform := none })]

private theorem disjoint_sameNumber {relation : String} (free : relation ≠ "name") :
    clashes users.fields (sameNumber relation) = [] := by
  refine clashes_eq_nil.2 fun name known => ?_
  obtain rfl := List.mem_singleton.1 known
  simpa [OrderedMap.contains, users, OrderedMap.ofEntries, OrderedMap.insert] using free.symm

def usersWith (relation : String) (free : relation ≠ "name") : Schema :=
  { users with relations := sameNumber relation, disjoint := disjoint_sameNumber free }

def registered (s : Schema) : Catalog := Catalog.enter {} 0 "User" (user s)

def usersOf (s : Schema) (row : Row) (populate : Value) : Except Error (List Record) :=
  let search : Action Catalog (Request Unit (List Record)) :=
    findMany Function.catalogue (user s) .null { populate } .registered
  (observe (replying (.ofRows [row])) search (registered s)).1

theorem undisturbed_of_populate_friends :
    let s := usersWith "friends" (by decide)
    let row : Row := .ofFields [("name", .text "ada"), ("id", .int 5), ("friends", .text "[]")]
    let plain : Record := { ada s (.int 5) with attributes := row }
    let full : Record := { ada s (.int 5) with
      attributes := .ofFields [("name", .text "ada"), ("id", .int 5), ("friends", .list [])] }
    usersOf s row (.bool false) = .ok [plain] ∧ usersOf s row (.bool true) = .ok [full] ∧
      full.values false = plain.values false ∧ full.primary = plain.primary := by
  intro s row plain full
  have found : usersOf s row (.bool false) = .ok [plain] := rfl
  have populated : usersOf s row (.bool true) = .ok [full] := rfl
  obtain ⟨schema, wanted, hschema, hwanted, each⟩ :=
    undisturbed_of_populate (m := user s) (s := { populate := .bool true }) rfl found populated
  obtain rfl := Except.ok.inj hschema
  obtain rfl := Except.ok.inj hwanted
  obtain ⟨same, _⟩ := List.forall₂_cons.1 each
  exact ⟨found, populated, same.values false, same.primary (by decide)⟩

/-- A relation that has the name of the primary key puts its payload in place of the key. -/
theorem primary_disturbed :
    let s := usersWith "id" (by decide)
    let row : Row := .ofFields [("name", .text "ada"), ("id", .text "5")]
    usersOf s row (.bool false) = .ok [ada s (.text "5")] ∧
      usersOf s row (.bool true) = .ok [ada s (.int 5)] :=
  ⟨rfl, rfl⟩

end Operation

end RecordMapper
