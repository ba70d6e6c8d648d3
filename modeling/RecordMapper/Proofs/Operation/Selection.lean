import RecordMapper.Proofs.Operation.Limiting
import RecordMapper.Proofs.Sql.Nulls

/-!
Relations that are selected. It counts only which of the declared relations an option names, not how it
names them: searches that name the same ones are the same. Each of these relations adds one column and one
join to the statement, in the order of declaration, and no value. An option that is a single name is only
looked at if it is not empty, though, so that a relation without a name is selected in a list of names,
but not by itself.
-/
namespace RecordMapper

open Sql

/-- The names that an option for relations stands for: all names, one name, or the names in a
collection. -/
def Names (populate : Value) (name : String) : Prop :=
  match populate with
  | .bool all => all = true
  | .text t => t = name
  | .looseText _ => False
  | v => .text name ∈ v.items?.getD []

namespace Operation

theorem isIn_iff_mem {name : String} {vs : List Value} :
    (Value.text name).isIn vs = true ↔ Value.text name ∈ vs := by
  have same (v : Value) : (Value.text name == v) = true ↔ Value.text name = v := Value.text_beq_iff rfl v
  simp [Value.isIn, same]

private theorem items_of_not_truthy {v : Value} (h : v.truthy = false) : v.items?.getD [] = [] := by
  cases v <;> simp_all [Value.truthy, Value.items?]

private theorem names_of_collection {v : Value} (noBool : ∀ b, v ≠ .bool b) (noText : ∀ t, v ≠ .text t)
    (noLooseText : ∀ ns, v ≠ .looseText ns) {name : String} :
    Names v name ↔ Value.text name ∈ v.items?.getD [] := by
  cases v with
  | bool b => exact absurd rfl (noBool b)
  | text t => exact absurd rfl (noText t)
  | looseText ns => exact absurd rfl (noLooseText ns)
  | _ => exact Iff.rfl

theorem includes_iff_names {populate : Value} {w : Wanted} (accepted : Wanted.ofValue populate = .ok w)
    {name : String} (nonempty : populate = .text "" → name ≠ "") :
    w.includes name = true ↔ Names populate name := by
  unfold Wanted.ofValue at accepted
  split at accepted
  · rename_i falsy
    obtain rfl := pure_eq_ok.1 accepted
    rw [Bool.not_eq_true'] at falsy
    -- An option that is false selects nothing. Of those only the empty text is a name.
    have nothing : ¬Names populate name := by
      unfold Names
      split
      · exact Bool.eq_false_iff.1 falsy
      · rename_i t
        obtain rfl : t = "" := by simpa [Value.truthy] using falsy
        exact (nonempty rfl).symm
      · exact id
      · rw [items_of_not_truthy falsy]
        exact List.not_mem_nil
    exact iff_of_false Bool.false_ne_true nothing
  · rename_i given
    rw [Bool.not_eq_true', Bool.not_eq_false] at given
    split at accepted
    · obtain rfl := pure_eq_ok.1 accepted
      exact iff_of_true rfl given
    · obtain rfl := pure_eq_ok.1 accepted
      rw [Wanted.includes, isIn_iff_mem, List.mem_singleton, Value.text.injEq]
      exact eq_comm
    · obtain rfl := pure_eq_ok.1 accepted
      rw [Wanted.includes, isIn_iff_mem, List.mem_singleton]
      exact iff_of_false Value.noConfusion id
    · rename_i noBool noText noLooseText
      obtain ⟨names, hnames, accepted⟩ := bind_eq_ok.1 accepted
      split at accepted
      · obtain rfl := pure_eq_ok.1 accepted
        have listed : populate.items?.getD [] = names := by
          unfold Value.toItems at hnames
          cases items : populate.items? with
          | none =>
            rw [items] at hnames
            cases hnames
          | some vs =>
            rw [items] at hnames
            exact pure_eq_ok.1 hnames
        rw [Wanted.includes, isIn_iff_mem, names_of_collection noBool noText noLooseText, listed]
      · cases accepted

private theorem populated_congr {schema : Schema} {w w' : Wanted}
    (same : ∀ name ∈ schema.relations.keys, w.includes name = w'.includes name) :
    populated schema w = populated schema w' :=
  List.filter_congr fun r here => same r.1 (List.mem_map_of_mem here)

private theorem gathered_congr {m : ModelClass} {schema : Schema} (hschema : m.schema = .ok schema)
    (filter : Value) (s : Search) {v v' : Value} {w w' : Wanted}
    (accepted : Wanted.ofValue v = .ok w) (accepted' : Wanted.ofValue v' = .ok w')
    (same : populated schema w = populated schema w') :
    gathered m filter { s with populate := v } = gathered m filter { s with populate := v' } := by
  have known {α β : Type} (a : α) (f : α → Action Catalog β) :
      ((liftM (Except.ok a : Except Error α) : Action Catalog α) >>= f) = f a := rfl
  unfold gathered
  simp only [hschema, accepted, accepted', known, same]
  rfl

/-! What a statement has of the relations. -/

/-- The clause that joins a relation to a table: the query of the relation, which binds nothing, on the
equality of the local and the foreign column. -/
def JoinClause (table : String) (relation : String × Relation) (clause : String) : Prop :=
  ∃ target query text, relation.2.compile relation.1 target = .ok query ∧ query.render = .ok ⟨text, []⟩ ∧
    clause = " LEFT JOIN (" ++ text ++ ") AS t_" ++ relation.1 ++ " ON " ++
      table ++ "." ++ relation.2.localColumn ++ " = t_" ++ relation.1 ++ "." ++ relation.2.foreignColumn

def joinedColumn (relation : String × Relation) : String :=
  "t_" ++ relation.1 ++ "." ++ ("\"" ++ relation.1 ++ "\"")

def selectList (columns : List String) : String :=
  if columns.isEmpty then "*" else ", ".intercalate columns

theorem columnList_eq (columns : List Value) :
    columnList columns = (columnNames columns).map selectList := by
  cases columns with
  | nil => rfl
  | cons v vs =>
    change (columnNames (v :: vs)).map _ = _
    cases found : columnNames (v :: vs) with
    | error e => rfl
    | ok names =>
      obtain ⟨name, names, _, _, rfl⟩ := List.forall₂_cons_left_iff.1 (mapM_eq_ok.1 found)
      rfl

private theorem columnNames_joined {columns : List Value} {joined : List (String × Relation)} {names : List String}
    (h : columnNames (columns ++ joined.map fun j => .text (Relation.resultColumn j.1)) = .ok names) :
    ∃ own, columnNames columns = .ok own ∧ names = own ++ joined.map joinedColumn := by
  rw [columnNames, List.mapM_append] at h
  obtain ⟨own, hown, h⟩ := bind_eq_ok.1 h
  obtain ⟨added, hadded, h⟩ := bind_eq_ok.1 h
  have known : added = joined.map joinedColumn := by
    rw [List.mapM_map, mapM_eq_ok_map (p := fun _ => True) (g := joinedColumn)] at hadded
    · exact hadded.2
    · intro j _ name
      exact pure_eq_ok.trans ⟨fun h => ⟨trivial, h.symm⟩, fun h => h.2.symm⟩
  rw [known] at h
  exact ⟨own, hown, (pure_eq_ok.1 h).symm⟩

private theorem compared_of_compile {name : String} {r : Relation} {target : Schema} {q : Select}
    (h : r.compile name target = .ok q) : q.filters.flatMap compared = [] := by
  unfold Relation.compile at h
  split at h
  · obtain rfl := pure_eq_ok.1 h
    rfl
  · obtain rfl := pure_eq_ok.1 h
    rfl
  · cases h

private theorem clauses_of_joins {table : String} {joined : List Joined} {ps : List Piece}
    (h : Join.allPieces (joined.map (·.join table)) = .ok ps) :
    ∃ clauses, List.Forall₂ (JoinClause table) (joined.map fun j => (j.name, j.relation)) clauses ∧
      boundValues ps = [] ∧ textFrom 0 ps = (String.join clauses).toList := by
  induction joined generalizing ps with
  | nil =>
    obtain rfl := pure_eq_ok.1 h
    exact ⟨[], .nil, rfl, rfl⟩
  | cons j joined ih =>
    obtain ⟨first, rest, hfirst, hrest, rfl⟩ := Join.allPieces_cons_eq_ok h
    obtain ⟨inner, hinner, rfl⟩ := Join.pieces_eq_ok hfirst
    obtain ⟨clauses, each, nothing, text⟩ := ih hrest
    have unbound : boundValues inner = [] :=
      (boundValues_select j.query hinner).trans (compared_of_compile j.compiled)
    have own : JoinClause table (j.name, j.relation) (" LEFT JOIN (" ++ String.ofList (textFrom 0 inner) ++
        (") AS " ++ Relation.joinAlias j.name ++ " ON " ++ j.localColumn table ++ " = " ++
          j.foreignColumn)) := by
      refine ⟨j.target, j.query, String.ofList (textFrom 0 inner), j.compiled, ?_, ?_⟩
      · rw [Select.render_eq, hinner, ← unbound]
        rfl
      · simp only [Relation.joinAlias, Joined.localColumn, Joined.foreignColumn, String.append_assoc]
        rfl
    refine ⟨_, .cons own each, ?_, ?_⟩
    · simp [boundValues, unbound, nothing]
    · simp [textFrom, textFrom_append, unbound, text]

/-- The statement of a search that joins relations. It is that of one query, which is sorted and cut as the
search asks for. Of each relation it has one column, behind those of the table, and one join, and behind
these nothing but the clauses of the query. It binds what the filter compares columns with. -/
structure StatementOf (schema : Schema) (filter : Value) (s : Search)
    (selected : List (String × Relation)) (statement : Statement) : Prop where
  text : ∃ columns joined conditions clauses names joins rest, s.chosen schema.table = .ok columns ∧
    joined.map (fun j => (j.name, j.relation)) = selected ∧
    qualifiedFilter schema.table filter = .ok conditions ∧
    arranged (joining schema.table columns joined { filter := conditions }) s =
      .ok (joining schema.table columns joined clauses) ∧
    (joining schema.table columns joined clauses).render = .ok statement ∧
    columnNames columns = .ok names ∧ List.Forall₂ (JoinClause schema.table) selected joins ∧
    clauses.write [] = .ok (rest, statement.values) ∧
    statement.text = "SELECT " ++ selectList (names ++ selected.map joinedColumn) ++ " FROM " ++
      schema.table ++ String.join joins ++ rest
  values : ∃ conditions, qualifiedFilter schema.table filter = .ok conditions ∧
    statement.values = compared conditions

section

variable {κ : Type} {fns : Functions} {m : ModelClass} {schema : Schema} {filter : Value} {s : Search}
  {route : Route κ} {c : Catalog}

private theorem statementOf_joining {columns : List Value} {joined : List Joined} {conditions : Mapping}
    {clauses : Clauses} {statement : Statement} (hcolumns : s.chosen schema.table = .ok columns)
    (hfilter : qualifiedFilter schema.table filter = .ok conditions)
    (harranged : arranged (joining schema.table columns joined { filter := conditions }) s =
      .ok (joining schema.table columns joined clauses))
    (h : (joining schema.table columns joined clauses).render = .ok statement) :
    StatementOf schema filter s (joined.map fun j => (j.name, j.relation)) statement := by
  have same : clauses.filter = conditions := by
    obtain ⟨clauses', query, kept⟩ := arranged_eq_ok harranged
    obtain rfl := (Select.mk.inj query).2.2.2
    exact kept
  have rendered := h
  rw [Select.render_eq] at h
  obtain ⟨ps, hps, h⟩ := bind_eq_ok.1 h
  obtain rfl := pure_eq_ok.1 h
  obtain ⟨list, source, joins, rest, hlist, hsource, hjoins, hrest, rfl⟩ := Select.pieces_eq_ok hps
  obtain rfl := pure_eq_ok.1 hsource
  obtain ⟨texts, each, nothing, text⟩ := clauses_of_joins hjoins
  rw [columnList_eq, map_eq_ok] at hlist
  obtain ⟨names, hnames, rfl⟩ := hlist
  have added : joined.map (fun j => Value.text (Relation.resultColumn j.name)) =
      (joined.map fun j => (j.name, j.relation)).map fun r => .text (Relation.resultColumn r.1) := by
    rw [List.map_map]
    rfl
  rw [added] at hnames
  obtain ⟨own, hown, rfl⟩ := columnNames_joined hnames
  have values : (Statement.ofPieces (.word ("SELECT " ++ selectList (own ++ (joined.map fun j =>
      (j.name, j.relation)).map joinedColumn) ++ " FROM ") :: [.word schema.table] ++ joins ++ rest)).values =
      boundValues rest := by
    simp [Statement.ofPieces, boundValues, nothing]
  refine ⟨⟨columns, joined, conditions, clauses, own, texts, String.ofList (textFrom 0 rest), hcolumns, rfl,
    hfilter, harranged, rendered, hown, each, ?_, ?_⟩, conditions, hfilter, ?_⟩
  · rw [clauses.writes, hrest, values]
    rfl
  · apply String.toList_injective
    simp [Statement.ofPieces, textFrom, textFrom_append, nothing, text]
  · rw [values, boundValues_clauses hrest, same]

private theorem arranged_of_sorted {q q' : Select} (h : sorted q s = .ok q') :
    arranged q s = .ok (s.cut q') := by
  rw [arranged_eq, h]
  rfl

theorem statementOf_findMany {request : Request κ (List Record)}
    (h : (findMany fns m filter s route c).1 = .ok request) :
    ∃ schema wanted, m.schema = .ok schema ∧ Wanted.ofValue s.populate = .ok wanted ∧
      StatementOf schema filter s (populated schema wanted) request.statement := by
  rw [findMany_eq] at h
  obtain ⟨⟨p, q⟩, hwhole, h⟩ := Action.bind_eq_ok.1 h
  obtain ⟨statement, hstatement, h⟩ := Action.bind_eq_ok.1 h
  obtain ⟨schema, wanted, columns, selected, conditions, hschema, hwanted, hcolumns, hp, hselected,
    hconditions, hq⟩ := gathered_eq_ok hwhole
  obtain ⟨joined, each, _, columns', start⟩ := joins_of_populate (.refl m c) hp rfl
  rw [start, columns'] at hselected
  obtain rfl := pure_eq_ok.1 hselected
  have whole : OrderedMap.empty.insertAll conditions.entries = conditions :=
    OrderedMap.ofEntries_entries conditions
  have sorted := arranged_of_sorted hq
  obtain ⟨clauses, query, filters⟩ := arranged_eq_ok sorted
  refine ⟨schema, wanted, hschema, hwanted, ?_⟩
  rw [(requests_of_sending h).statement, ← each]
  refine statementOf_joining hcolumns hconditions ?_ (query ▸ hstatement)
  rw [query] at sorted
  conv_lhs => rw [← whole]
  exact sorted

end

/-- Searches whose options name the same declared relations are the same: they send the same and make the
same of the reply. Only for a relation without a name, an option that is that name counts as none. -/
theorem findMany_of_same_names {κ : Type} (fns : Functions) {m : ModelClass} {schema : Schema}
    (hschema : m.schema = .ok schema) (filter : Value) (s : Search) (route : Route κ) {v v' : Value}
    {w w' : Wanted} (accepted : Wanted.ofValue v = .ok w) (accepted' : Wanted.ofValue v' = .ok w')
    (same : ∀ name ∈ schema.relations.keys, Names v name ↔ Names v' name)
    (named : "" ∈ schema.relations.keys → v ≠ .text "" ∧ v' ≠ .text "") :
    findMany fns m filter { s with populate := v } route =
        findMany fns m filter { s with populate := v' } route ∧
      ∀ c request, (findMany fns m filter { s with populate := v } route c).1 = .ok request →
        ∃ selected : List (String × Relation), selected.Sublist schema.relations.entries ∧
          (∀ r ∈ schema.relations.entries, r ∈ selected ↔ Names v r.1) ∧
          StatementOf schema filter s selected request.statement := by
  have included : ∀ name ∈ schema.relations.keys, w.includes name = true ↔ Names v name :=
    fun name here => includes_iff_names accepted fun empty => by
      rintro rfl
      exact (named here).1 empty
  have included' : ∀ name ∈ schema.relations.keys, w'.includes name = true ↔ Names v' name :=
    fun name here => includes_iff_names accepted' fun empty => by
      rintro rfl
      exact (named here).2 empty
  have selected : populated schema w = populated schema w' := populated_congr fun name here =>
    Bool.eq_iff_iff.2 <| (included name here).trans <| (same name here).trans (included' name here).symm
  refine ⟨?_, fun c request h => ⟨populated schema w, List.filter_sublist, fun r here => ?_, ?_⟩⟩
  · rw [findMany_eq, findMany_eq, gathered_congr hschema filter s accepted accepted' selected]
    rfl
  · rw [← included r.1 (List.mem_map_of_mem here), populated, List.mem_filter]
    exact and_iff_right here
  · obtain ⟨schema', wanted, hschema', hwanted, statement⟩ := statementOf_findMany h
    obtain rfl := Except.ok.inj (hschema.symm.trans hschema')
    obtain rfl := Except.ok.inj (accepted.symm.trans hwanted)
    exact ⟨statement.text, statement.values⟩

def populatingSent (s : Schema) (populate : Value) : List (Target Unit × Statement) :=
  (observe silent (findMany Function.catalogue (user s) .null { populate } .registered) (registered s)).2

theorem findMany_of_same_names_friends :
    let s := usersWith "friends" (by decide)
    let named : Value := .list [.text "friends", .text "enemies", .text "friends"]
    (∀ name ∈ s.relations.keys, Names named name ↔ Names (.bool true) name) ∧ "" ∉ s.relations.keys ∧
      populatingSent s named = populatingSent s (.bool true) ∧
      ∃ statement selected, populatingSent s named = [(.pool 0, statement)] ∧
        (∀ r ∈ s.relations.entries, r ∈ selected) ∧ StatementOf s .null {} selected statement := by
  intro s named
  have same : ∀ name ∈ s.relations.keys, Names named name ↔ Names (.bool true) name := by
    intro name here
    obtain rfl := List.mem_singleton.1 here
    exact iff_of_true (List.mem_cons_self ..) rfl
  have noEmpty : "" ∉ s.relations.keys := by decide
  obtain ⟨equal, statements⟩ := findMany_of_same_names Function.catalogue (m := user s) rfl .null {}
    (.registered : Route Unit) rfl rfl same (fun here => absurd here noEmpty)
  obtain ⟨request, found, pool⟩ : ∃ request : Request Unit (List Record), (findMany Function.catalogue
      (user s) .null { populate := named } .registered (registered s)).1 = .ok request ∧
      request.target = .pool 0 := ⟨_, rfl, rfl⟩
  obtain ⟨selected, _, mem, statement⟩ := statements (registered s) request found
  refine ⟨same, noEmpty, ?_, request.statement, selected, ?_, fun r here => ?_, statement⟩
  · rw [populatingSent, populatingSent, equal]
  · rw [populatingSent, observe_of_ok found, pool]
  · rw [mem r here, same r.1 (List.mem_map_of_mem here)]
    rfl

/-- A relation without a name is named by the empty text and by a list of it, but only the list selects
it. -/
theorem empty_name_lost :
    let s := usersWith "" (by decide)
    (∀ name ∈ s.relations.keys, Names (.text "") name ∧ Names (.list [.text ""]) name) ∧
      (populatingSent s (.text "")).map (·.2.text) = ["SELECT users.* FROM users"] ∧
      (populatingSent s (.list [.text ""])).map (·.2.text) = ["SELECT users.*, t_.\"\" FROM users " ++
        "LEFT JOIN (SELECT t___inner.id, json_agg(t___inner.\"\") AS \"\" " ++
        "FROM (SELECT id, json_build_object('name', \"name\") AS \"\" FROM users) " ++
        "AS t___inner GROUP BY t___inner.id) AS t_ ON users.id = t_.id"] ∧
      populatingSent s (.text "") ≠ populatingSent s (.list [.text ""]) := by
  intro s
  have named : ∀ name ∈ s.relations.keys, Names (.text "") name ∧ Names (.list [.text ""]) name := by
    intro name here
    obtain rfl := List.mem_singleton.1 here
    exact ⟨rfl, List.mem_singleton_self _⟩
  have plain : (populatingSent s (.text "")).map (·.2.text) = ["SELECT users.* FROM users"] := by
    decide +kernel
  have joined : (populatingSent s (.list [.text ""])).map (·.2.text) = ["SELECT users.*, t_.\"\" FROM users " ++
      "LEFT JOIN (SELECT t___inner.id, json_agg(t___inner.\"\") AS \"\" " ++
      "FROM (SELECT id, json_build_object('name', \"name\") AS \"\" FROM users) " ++
      "AS t___inner GROUP BY t___inner.id) AS t_ ON users.id = t_.id"] := by decide +kernel
  refine ⟨named, plain, joined, fun same => ?_⟩
  rw [← same, plain] at joined
  exact absurd joined (by decide +kernel)

end Operation

end RecordMapper
