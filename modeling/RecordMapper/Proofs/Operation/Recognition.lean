import RecordMapper.Proofs.Operation.Joining
import RecordMapper.Proofs.Operation.Storing
import RecordMapper.Proofs.Sql.Matching

/-!
Finding a record by its own values. The search asks for the columns that storing the record fills, as far
as they are not `null`. It asks for what was stored there unless the value is a map, which is stored as
text, or a collection, which the search takes for its members.
-/
namespace RecordMapper

open Sql

/-- Is the value stored as it is, and looked for as it is? -/
def Value.isPlain : Value → Bool
  | list _ | tuple _ | set _ _ | dict _ => false
  | _ => true

namespace Operation

/-! What a search sends. -/

/-- The statement is that of a query for rows of a table that match a filter, perhaps with the rows of
relations joined. -/
def Searches (table : String) (filter : Mapping) (s : Statement) : Prop :=
  ∃ columns joined clauses, (joining table columns joined clauses).render = .ok s ∧
    clauses.filter = filter

private theorem searches_of_findMany {κ : Type} {fns : Functions} {m : ModelClass} {filter : Value}
    {search : Search} {route : Route κ} {c : Catalog} {request : Request κ (List Record)}
    (h : (findMany fns m filter search route c).1 = .ok request) :
    ∃ schema conditions, m.schema = .ok schema ∧ qualifiedFilter schema.table filter = .ok conditions ∧
      Searches schema.table conditions request.statement := by
  obtain ⟨schema, _, conditions, columns, joined, clauses, hschema, _, hconditions, _, filter, hstatement⟩ :=
    query_of_findMany h
  exact ⟨schema, conditions, hschema, hconditions, columns, joined, clauses, hstatement, filter⟩

/-! The filter that looks for a record. -/

/-- The name of a column with its table, unless it comes with one. -/
def qualifiedName (table name : String) : String :=
  if '.' ∈ name.toList then name else table ++ "." ++ name

private theorem occursIn_singleton (c : Char) (cs : List Char) : Value.occursIn [c] cs = decide (c ∈ cs) := by
  induction cs with
  | nil => rfl
  | cons d cs ih =>
    rw [Value.occursIn, ih]
    by_cases same : c = d <;> simp [same]

theorem qualified_text (table name : String) :
    qualified table (.text name) = .ok (.text (qualifiedName table name)) := by
  have dot : (Value.text ".").memberOf (.text name) = .ok (decide ('.' ∈ name.toList)) :=
    congrArg Except.ok (occursIn_singleton '.' name.toList)
  rw [qualified, dot, qualifiedName]
  by_cases there : '.' ∈ name.toList
  · simp only [there, decide_true, if_true]
    rfl
  · simp only [there, decide_false, if_false]
    rfl

theorem orEmpty_toValue (m : Mapping) : m.toValue.orEmpty = m.toValue := by
  unfold Value.orEmpty
  split
  · rfl
  · rename_i empty
    have none : m.entries = [] := by simpa [OrderedMap.toValue, Value.truthy] using empty
    rw [OrderedMap.toValue, none]

theorem qualifiedFilter_names {f : String → Value} {filter : Mapping} {names : List String}
    (entries : filter.entries = names.map fun name => (.text name, f name)) (table : String) :
    qualifiedFilter table filter.toValue =
      .ok (.ofEntries (names.map fun name => (.text (qualifiedName table name), f name))) := by
  have each : filter.entries.mapM (fun e => do return (← qualified table e.1, e.2)) =
      .ok (names.map fun name => (.text (qualifiedName table name), f name)) := by
    rw [mapM_eq_ok, entries, List.forall₂_map_left_iff, List.forall₂_map_right_iff, List.forall₂_same]
    intro name _
    rw [qualified_text]
    rfl
  rw [qualifiedFilter, orEmpty_toValue]
  change (do return OrderedMap.ofEntries (← filter.entries.mapM _)) = _
  rw [each]
  rfl

end Operation

namespace Record

def filter (r : Record) : Mapping :=
  .ofEntries (r.askedColumns.map fun name =>
    (.text (Operation.qualifiedName r.schema.table name), r.valueOf name))

/-- The columns that are looked for have different names, with their table. -/
def Unambiguous (r : Record) : Prop :=
  (r.askedColumns.map (Operation.qualifiedName r.schema.table)).Nodup

theorem mem_askedColumns {r : Record} {name : String} :
    name ∈ r.askedColumns ↔ name ∈ r.storedColumns ∧ r.valueOf name ≠ .null := by
  rw [askedColumns, List.mem_filter, Bool.not_eq_true', ← Bool.not_eq_true, Value.isNull_iff]

theorem entries_filter {r : Record} (h : r.Unambiguous) :
    r.filter.entries = r.askedColumns.map fun name =>
      (.text (Operation.qualifiedName r.schema.table name), r.valueOf name) := by
  refine OrderedMap.entries_insertAll ?_
  rw [OrderedMap.entries_empty, List.nil_append, List.pairwise_map]
  exact (List.pairwise_map.1 h).imp fun different => by simpa using different

end Record

theorem Catalog.schema_of_record? {c : Catalog} {v : Value} {r : Record} (h : c.record? v = some r) :
    r.model.schema = .ok r.schema := by
  cases v with
  | record ref identity es =>
    obtain ⟨model, _, h⟩ := Option.bind_eq_some_iff.1 h
    obtain ⟨schema, declared, h⟩ := Option.bind_eq_some_iff.1 h
    obtain rfl := Option.some.inj h
    cases own : model.schema with
    | error e =>
      rw [own] at declared
      cases declared
    | ok s =>
      rw [own] at declared
      exact congrArg _ (Option.some.inj declared)
  | _ => cases h

namespace Operation

private theorem searches_of_findOneByPartial {κ : Type} {fns : Functions} {v : Value} {r : Record} {c : Catalog}
    (known : c.record? v = some r) {options : List (String × Value)} {route : Route κ}
    {request : Request κ (Option Record)}
    (h : (findOneByPartial fns v options route c).1 = .ok request) :
    Searches r.schema.table r.filter request.statement := by
  obtain ⟨now, hnow, h⟩ := Action.bind_eq_ok.1 h
  obtain rfl := Except.ok.inj hnow
  rw [known] at h
  obtain ⟨filter, hfilter, h⟩ := Action.bind_eq_ok.1 h
  obtain ⟨search, _, h⟩ := Action.bind_eq_ok.1 h
  obtain ⟨all, hall, h⟩ := Action.bind_eq_ok.1 h
  obtain rfl := pure_eq_ok.1 h
  obtain ⟨schema, conditions, hschema, hconditions, searches⟩ := searches_of_findMany hall
  obtain rfl := Except.ok.inj (hschema.symm.trans (Catalog.schema_of_record? known))
  rw [qualifiedFilter_names (Record.entries_asFilter hfilter)] at hconditions
  obtain rfl := Except.ok.inj hconditions
  exact searches

/-! What is asked, and what was stored. -/

theorem ofValue_eq_stored {v : Value} (set : v ≠ .null) (storable : Storable v) :
    Condition.ofValue v = .equals (storedForm v) ↔ v.isPlain = true := by
  cases v with
  | null => exact absurd rfl set
  | list vs | tuple vs | set _ vs => cases vs <;> simp [Condition.ofValue, Value.isPlain]
  | dict es =>
    obtain ⟨text, _, form⟩ := bind_eq_ok.1 storable
    rw [← pure_eq_ok.1 form]
    simp [Condition.ofValue, Value.isPlain]
  | _ => simp [Condition.ofValue, storedForm, Value.isPlain]

private theorem matches_filter {r : Record} (unambiguous : r.Unambiguous)
    (storable : ∀ name ∈ r.askedColumns, Storable (r.valueOf name))
    (plain : ∀ name ∈ r.askedColumns, (r.valueOf name).isPlain) {equal : Value → Value → Prop}
    (self : ∀ v, equal v v) {row : String → Value}
    (stored : ∀ name ∈ r.askedColumns,
      row (qualifiedName r.schema.table name) = storedForm (r.valueOf name)) :
    Matches equal r.filter row := by
  intro e he
  rw [Record.entries_filter unambiguous] at he
  obtain ⟨name, here, rfl⟩ := List.mem_map.1 he
  have set := (Record.mem_askedColumns.1 here).2
  have asks := (ofValue_eq_stored set (storable name here)).2 (plain name here)
  change (Condition.ofValue (r.valueOf name)).Meets equal (row (qualifiedName r.schema.table name))
  rw [asks, stored name here]
  exact self _

/-- A search for a record by its values, and what is sent to store it. The search is about the columns
that are filled with anything but `null`, each with its table. What it asks of a column is to equal
what is stored there exactly if the value is plain. So it finds what was stored, if all values are
plain and no two columns have the same name with their table. -/
theorem found_by_own_values {κ : Type} {fns : Functions} (replies replies' : Replies κ) {c c' : Catalog}
    (route route' : Route κ) {v : Value} {r : Record} (known : c.record? v = some r)
    (options options' : List (String × Value)) :
    ∀ looked ∈ (observe replies (findOneByPartial fns v options route) c).2,
    ∀ saved ∈ (observe replies' (save r options' route') c').2,
      Searches r.schema.table r.filter looked.2 ∧
      (∃ only, saved.2 = .ofPieces (r.insertion only)) ∧
      (∀ name, name ∈ r.askedColumns ↔ name ∈ r.storedColumns ∧ r.valueOf name ≠ .null) ∧
      (∀ name ∈ r.askedColumns,
        Condition.ofValue (r.valueOf name) = .equals (storedForm (r.valueOf name)) ↔
          (r.valueOf name).isPlain) ∧
      (r.Unambiguous →
        (r.filter.entries = r.askedColumns.map fun name =>
          (.text (qualifiedName r.schema.table name), r.valueOf name)) ∧
        ((∀ name ∈ r.askedColumns, (r.valueOf name).isPlain) →
          ∀ equal : Value → Value → Prop, (∀ v, equal v v) → ∀ row : String → Value,
            (∀ name ∈ r.askedColumns,
              row (qualifiedName r.schema.table name) = storedForm (r.valueOf name)) →
            Matches equal r.filter row)) := by
  intro looked hl saved hs
  obtain ⟨request, hrequest, rfl⟩ := mem_observe hl
  obtain ⟨only, _, all, inserted⟩ := insertion_of_save hs
  have storable : ∀ name ∈ r.askedColumns, Storable (r.valueOf name) := fun name here =>
    all name (Record.mem_askedColumns.1 here).1
  refine ⟨searches_of_findOneByPartial known hrequest, ⟨only, inserted⟩,
    fun _ => Record.mem_askedColumns, fun name here => ?_, fun unambiguous => ?_⟩
  · exact ofValue_eq_stored (Record.mem_askedColumns.1 here).2 (storable name here)
  · exact ⟨Record.entries_filter unambiguous, fun plain _ self _ stored =>
      matches_filter unambiguous storable plain self stored⟩

def firstUser (filter : Mapping) : Statement :=
  .ofPieces ([.word "SELECT users.* FROM ", .word "users"] ++ whereClause filter ++ [.word " LIMIT 1"])

private theorem render_firstUser (filter : Mapping) :
    (Select.mk [.text "users.*"] (.table "users") [] { filter, limit := .int 1 }).render =
      .ok (firstUser filter) := by
  have one : (Value.int 1).toInteger = .ok 1 := rfl
  have short : Number.isOverlong 1 = false := by decide +kernel
  have cut : countClause " LIMIT " (.int 1) = .ok [.word " LIMIT 1"] :=
    countClause_eq_ok.2 ⟨1, one, short, rfl⟩
  have clauses : Clauses.pieces { filter, limit := .int 1 } =
      .ok (whereClause filter ++ [] ++ [] ++ [.word " LIMIT 1"]) := by
    simp only [Clauses.pieces, Clauses.cutClause, cut]
    rfl
  simp only [List.append_nil] at clauses
  simp only [Select.render_eq, Select.pieces, Source.pieces, Join.allPieces, clauses]
  rfl

private theorem findMany_user {filter : Value} {conditions : Mapping}
    (conditioned : qualifiedFilter "users" filter = .ok conditions) (c : Catalog) :
    (findMany Function.catalogue (user users) filter { limit := .int 1 } (.given ()) c).1 =
      .ok ⟨.given (), firstUser conditions, found Function.catalogue (user users) []⟩ := by
  have all : OrderedMap.empty.insertAll conditions.entries = conditions :=
    OrderedMap.ofEntries_entries conditions
  refine Action.bind_eq_ok.2 ⟨users, rfl, ?_⟩
  refine Action.bind_eq_ok.2 ⟨[.text "users.*"], rfl, ?_⟩
  refine Action.bind_eq_ok.2 ⟨.named [], rfl, ?_⟩
  refine Action.bind_eq_ok.2 ⟨{ columns := [.text "users.*"] }, rfl, ?_⟩
  refine Action.bind_eq_ok.2 ⟨.mk [.text "users.*"] .missing [] {}, rfl, ?_⟩
  refine Action.bind_eq_ok.2 ⟨conditions, conditioned, ?_⟩
  refine Action.bind_eq_ok.2 ⟨.mk [.text "users.*"] (.table "users") []
    { filter := conditions, limit := .int 1 }, ?_, ?_⟩
  · conv_rhs => rw [← all]
    rfl
  exact Action.bind_eq_ok.2 ⟨firstUser conditions, render_firstUser conditions, rfl⟩

theorem sent_for_user {r : Record} (model : r.model = user users) (schema : r.schema = users)
    {filter : Mapping} (asked : r.asFilter = .ok filter) {c : Catalog}
    (known : c.record? r.toValue = some r) :
    (observe silent (findOneByPartial Function.catalogue r.toValue [] (.given ())) c).2 =
      [(.given (), firstUser r.filter)] := by
  have conditioned : qualifiedFilter "users" filter.toValue = .ok r.filter := by
    rw [qualifiedFilter_names (Record.entries_asFilter asked), Record.filter, schema]
    rfl
  have search : (findOneByPartial Function.catalogue r.toValue [] (.given ()) c).1 =
      .ok ⟨.given (), firstUser r.filter, fun reply => do
        return (← found Function.catalogue (user users) [] reply).head?⟩ := by
    refine Action.bind_eq_ok.2 ⟨c, rfl, ?_⟩
    rw [known]
    refine Action.bind_eq_ok.2 ⟨filter, asked, ?_⟩
    refine Action.bind_eq_ok.2 ⟨{}, rfl, ?_⟩
    rw [model]
    exact Action.bind_eq_ok.2 ⟨_, findMany_user conditioned c, rfl⟩
  exact congrArg Prod.snd (observe_of_ok search)

def knownUsers : Catalog := { classes := [user users] }

set_option maxRecDepth 1000 in
theorem found_by_own_values_ada :
    let row (column : String) : Value := if column = "users.id" then .int 1 else .text "ada"
    knownUsers.record? (ada users (.int 1)).toValue = some (ada users (.int 1)) ∧
    (observe silent (findOneByPartial Function.catalogue (ada users (.int 1)).toValue [] (.given ()))
      knownUsers).2 = [(.given (),
        ⟨"SELECT users.* FROM users WHERE users.id = :p_0 AND users.name = :p_1 LIMIT 1",
          [.int 1, .text "ada"]⟩)] ∧
    (observe silent (save (ada users (.int 1)) [] (.given ())) knownUsers).2 = [(.given (),
      ⟨"INSERT INTO users (id, name) VALUES (:p_0, :p_1) " ++
        "ON CONFLICT (id) DO UPDATE SET name = EXCLUDED.name RETURNING *", [.int 1, .text "ada"]⟩)] ∧
    Matches (· = ·) (ada users (.int 1)).filter row := by
  intro row
  have known : knownUsers.record? (ada users (.int 1)).toValue = some (ada users (.int 1)) := rfl
  have columns : (ada users (.int 1)).askedColumns = ["id", "name"] := rfl
  have filter : (ada users (.int 1)).filter =
      .ofFields [("users.id", .int 1), ("users.name", .text "ada")] := by
    rw [Record.filter, columns]
    rfl
  have asked : (ada users (.int 1)).asFilter = .ok (.ofFields [("id", .int 1), ("name", .text "ada")]) := rfl
  have looked := sent_for_user rfl rfl asked known
  have saved : (observe silent (save (ada users (.int 1)) [] (.given ())) knownUsers).2 = [(.given (),
      ⟨"INSERT INTO users (id, name) VALUES (:p_0, :p_1) " ++
        "ON CONFLICT (id) DO UPDATE SET name = EXCLUDED.name RETURNING *", [.int 1, .text "ada"]⟩)] := rfl
  have unambiguous : (ada users (.int 1)).Unambiguous := by
    rw [Record.Unambiguous, columns]
    decide
  obtain ⟨_, _, _, _, all⟩ := found_by_own_values silent silent (.given ()) (.given ()) known [] []
    _ (by rw [looked]; exact List.mem_singleton_self _) _ (by rw [saved]; exact List.mem_singleton_self _)
  refine ⟨known, ?_, saved, (all unambiguous).2 ?_ _ (fun _ => rfl) row ?_⟩
  · rw [looked, filter]
    rfl
  · rw [columns]
    simp only [List.forall_mem_cons]
    exact ⟨rfl, rfl, List.forall_mem_nil _⟩
  · rw [columns]
    simp only [List.forall_mem_cons]
    exact ⟨rfl, rfl, List.forall_mem_nil _⟩

def mapped : Record :=
  { ada users .null with
    attributes := .ofFields [("name", .dict [(.text "a", .text "b")]), ("id", .null)] }

set_option maxRecDepth 1000 in
/-- A map is stored as text, and looked for as a map. -/
theorem map_missed :
    let stored : Value := .text "\x7b\"a\": \"b\"\x7d"
    Record.build Function.catalogue (user users) .null
      (.dict [(.text "name", .dict [(.text "a", .text "b")])]) .null true = .ok mapped ∧
    (observe silent (save mapped [] (.given ())) knownUsers).2 = [(.given (),
      ⟨"INSERT INTO users (name) VALUES (:p_0) " ++
        "ON CONFLICT (id) DO UPDATE SET name = EXCLUDED.name RETURNING *", [stored]⟩)] ∧
    (observe silent (findOneByPartial Function.catalogue mapped.toValue [] (.given ())) knownUsers).2 =
      [(.given (), ⟨"SELECT users.* FROM users WHERE users.name = :p_0 LIMIT 1",
        [.dict [(.text "a", .text "b")]]⟩)] ∧
    ¬ Matches (· = ·) mapped.filter fun _ => stored := by
  have known : knownUsers.record? mapped.toValue = some mapped := rfl
  have columns : mapped.askedColumns = ["name"] := rfl
  have filter : mapped.filter = .ofFields [("users.name", .dict [(.text "a", .text "b")])] := by
    rw [Record.filter, columns]
    rfl
  have asked : mapped.asFilter = .ok (.ofFields [("name", .dict [(.text "a", .text "b")])]) := rfl
  have looked := sent_for_user rfl rfl asked known
  refine ⟨rfl, rfl, ?_, fun found => ?_⟩
  · rw [looked, filter]
    rfl
  · rw [filter] at found
    have equal := found (.text "users.name", .dict [(.text "a", .text "b")]) (List.mem_singleton_self _)
    cases equal

end Operation

end RecordMapper
