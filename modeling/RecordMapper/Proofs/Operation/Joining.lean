import Mathlib.Data.List.Count
import RecordMapper.Proofs.Model.Target
import RecordMapper.Proofs.Operation.Populating
import RecordMapper.Proofs.Sql.Range

/-!
The query of a search, and the names in it. A relation is joined under an alias that is made of its
name. The names of relations and fields are kept apart, but nothing keeps an alias apart from the table,
or the name of a relation from its foreign column. If the database reads these as different names, then
everything that the query refers to is well-defined.
-/
namespace RecordMapper

open Sql

/-- All names of the schema are plain. -/
structure Schema.PlainNames (s : Schema) : Prop where
  table : isName s.table
  fields : ∀ name ∈ s.fieldNames, isName name
  relations : ∀ relation ∈ s.relations.entries, isName relation.1 ∧ isName relation.2.localColumn ∧
    isName relation.2.foreignColumn ∧ ∀ column ∈ relation.2.columns.getD [], isName column

theorem Relation.isName_fetched {r : Relation} {target : Schema}
    (columns : ∀ column ∈ r.columns.getD [], isName column) (plain : target.PlainNames) :
    ∀ column ∈ r.fetched target, isName column := by
  unfold fetched
  split
  · exact plain.fields
  · exact plain.fields
  · rename_i given
    rwa [given] at columns

theorem Sql.Select.mem_queries (q : Select) : q ∈ q.queries := by
  cases q
  rw [queries]
  exact List.mem_cons_self

namespace Operation

/-- A relation that a query joins, with its target and its own query. -/
structure Joined where
  name : String
  relation : Relation
  target : Schema
  query : Select
  compiled : relation.compile name target = .ok query

namespace Joined

def localColumn (j : Joined) (table : String) : String := table ++ "." ++ j.relation.localColumn

def foreignColumn (j : Joined) : String := Relation.joinAlias j.name ++ "." ++ j.relation.foreignColumn

def join (table : String) (j : Joined) : Join :=
  .left j.query (Relation.joinAlias j.name) (j.localColumn table) j.foreignColumn

/-- The target is the one that the relation of a model leads to. -/
def LedTo (m : ModelClass) (c : Catalog) (j : Joined) : Prop :=
  ∃ d target, c.database m = .ok d ∧
    (Catalog.resolve d (m.relationRef j.name j.relation) c).1 = .ok target ∧ target.schema = .ok j.target

end Joined

/-- The query of a search that joins relations to a table. -/
def joining (table : String) (columns : List Value) (joined : List Joined) (clauses : Clauses) :
    Select :=
  .mk (columns ++ joined.map fun j => .text (Relation.resultColumn j.name)) (.table table)
    (joined.map (·.join table)) clauses

theorem joins_of_populate {m : ModelClass} {table : String} {relations : List (String × Relation)}
    {p p' : Population} {c c' : Catalog} (alike : Catalog.Alike m c c')
    (h : (populate m table relations p c').1 = .ok p')
    {columns : List Value} {source : Source} {joins : List Join} {clauses : Clauses}
    (query : p.query = .mk columns source joins clauses) :
    ∃ joined : List Joined, joined.map (fun j => (j.name, j.relation)) = relations ∧
      (∀ j ∈ joined, j.LedTo m c) ∧
      p'.columns = p.columns ++ joined.map (fun j => .text (Relation.resultColumn j.name)) ∧
      p'.query = .mk columns source (joins ++ joined.map (·.join table)) clauses := by
  induction relations generalizing p c' joins with
  | nil =>
    obtain rfl := pure_eq_ok.1 h
    exact ⟨[], rfl, nofun, by simp, by simpa using query⟩
  | cons relation relations ih =>
    obtain ⟨name, r⟩ := relation
    obtain ⟨now, hnow, h⟩ := Action.bind_eq_ok.1 h
    obtain rfl := Except.ok.inj hnow
    obtain ⟨d, hd, h⟩ := Action.bind_eq_ok.1 h
    obtain ⟨target, resolved, h⟩ := Action.bind_eq_ok.1 h
    obtain ⟨schema, hschema, h⟩ := Action.bind_eq_ok.1 h
    obtain ⟨sub, hsub, h⟩ := Action.bind_eq_ok.1 h
    let first : Joined := ⟨name, r, schema, sub, hsub⟩
    have here : c.database m = .ok d := (alike.database m).symm.trans hd
    have led : first.LedTo m c :=
      ⟨d, target, here, (alike.resolve here _).symm.trans resolved, hschema⟩
    have joins' : (p.join table name r sub).query =
        .mk columns source (joins ++ [first.join table]) clauses := by
      rw [Population.join, query]
      rfl
    obtain ⟨joined, each, leds, columns', query'⟩ := ih (alike.trans (.after_resolve hd _)) h joins'
    refine ⟨first :: joined, by rw [List.map_cons, each], ?_, ?_, by simpa using query'⟩
    · rw [List.forall_mem_cons]
      exact ⟨led, leds⟩
    · rw [columns']
      simp [Population.join, first]

theorem nodup_populated (s : Schema) (w : Wanted) : ((populated s w).map (·.1)).Nodup :=
  s.relations.nodup_keys.sublist (List.filter_sublist.map _)

theorem arranged_eq_ok {columns : List Value} {source : Source} {joins : List Join} {clauses : Clauses}
    {s : Search} {q : Select} (h : arranged (.mk columns source joins clauses) s = .ok q) :
    ∃ clauses', q = .mk columns source joins clauses' ∧ clauses'.filter = clauses.filter := by
  -- Whether the query was sorted before or not, it is cut in the same way.
  have cut {clauses : Clauses} (h : (if s.limit.truthy then
      let query := (Select.mk columns source joins clauses).limit s.limit
      pure (if s.offset.truthy then query.offset s.offset else query)
      else pure (Select.mk columns source joins clauses)) = (.ok q : Except Error Select)) :
      ∃ clauses', q = .mk columns source joins clauses' ∧ clauses'.filter = clauses.filter := by
    split at h
    · obtain rfl := pure_eq_ok.1 h
      split <;> exact ⟨_, rfl, rfl⟩
    · obtain rfl := pure_eq_ok.1 h
      exact ⟨clauses, rfl, rfl⟩
  unfold arranged at h
  dsimp only at h
  split at h
  · obtain ⟨sorted, hsorted, h⟩ := bind_eq_ok.1 h
    obtain ⟨direction, _, hsorted⟩ := bind_eq_ok.1 hsorted
    obtain rfl := pure_eq_ok.1 hsorted
    obtain ⟨clauses', rfl, same⟩ := cut h
    exact ⟨clauses', rfl, same⟩
  · exact cut h

section

variable {κ : Type} {fns : Functions} {m : ModelClass} {filter : Value} {s : Search} {route : Route κ}
  {c : Catalog} {request : Request κ (List Record)}

theorem query_of_findMany (h : (findMany fns m filter s route c).1 = .ok request) :
    ∃ schema wanted conditions columns joined clauses, m.schema = .ok schema ∧
      Wanted.ofValue s.populate = .ok wanted ∧ qualifiedFilter schema.table filter = .ok conditions ∧
      (joined.map (fun j => (j.name, j.relation)) = populated schema wanted ∧ ∀ j ∈ joined, j.LedTo m c) ∧
      clauses.filter = conditions ∧
      (joining schema.table columns joined clauses).render = .ok request.statement := by
  obtain ⟨schema, wanted, columns, p, selected, conditions, query, statement, _, hschema, hwanted, hp,
    hselected, hconditions, hquery, hstatement, requests⟩ := findMany_eq_ok h
  obtain ⟨joined, each, led, hcolumns, start⟩ := joins_of_populate (.refl m c) hp rfl
  rw [start, hcolumns] at hselected
  obtain ⟨items, hitems, hselected⟩ := bind_eq_ok.1 hselected
  obtain rfl := pure_eq_ok.1 hitems
  obtain rfl := pure_eq_ok.1 hselected
  obtain ⟨clauses, rfl, same⟩ := arranged_eq_ok hquery
  refine ⟨schema, wanted, conditions, columns, joined, clauses, hschema, hwanted, hconditions,
    ⟨each, led⟩, same.trans (OrderedMap.ofEntries_entries conditions), ?_⟩
  rw [requests.statement]
  exact hstatement

end

/-! The names. -/

variable (reading : Reading)

/-- The database reads the names of all ranges of a query as different names, and so those of the two
columns that a relation offers. -/
structure Apart (table : String) (joined : List Joined) : Prop where
  table : ∀ j ∈ joined, reading.bare (Relation.joinAlias j.name) ≠ reading.bare table
  aliases : joined.Pairwise fun j j' =>
    reading.bare (Relation.joinAlias j.name) ≠ reading.bare (Relation.joinAlias j'.name)
  columns : ∀ j ∈ joined, reading.bare j.relation.foreignColumn ≠ reading.quoted j.name

variable (tables : String → List String)

theorem ranges_joining (table : String) (columns : List Value) (joined : List Joined)
    (clauses : Clauses) :
    (joining table columns joined clauses).ranges reading tables =
      ⟨reading.bare table, (tables (reading.bare table)).map some⟩ ::
        joined.map fun j => ⟨reading.bare (Relation.joinAlias j.name), j.query.exports reading⟩ := by
  simp only [joining, Select.ranges, Source.range?, Option.toList_some, List.singleton_append,
    List.map_map]
  rfl

theorem names_of_ranges (table : String) (columns : List Value) (joined : List Joined)
    (clauses : Clauses) :
    ((joining table columns joined clauses).ranges reading tables).map Range.name =
      reading.bare table :: joined.map fun j => reading.bare (Relation.joinAlias j.name) := by
  rw [ranges_joining, List.map_cons, List.map_map]
  rfl

theorem nodup_offered {name : String} {r : Relation} :
    (Relation.offered reading name r).Nodup ↔ reading.bare r.foreignColumn ≠ reading.quoted name := by
  simp [Relation.offered]

theorem apart_iff {table : String} {columns : List Value} {joined : List Joined} {clauses : Clauses}
    (offers : ∀ j ∈ joined, ∀ inner ∈ j.query.queries,
      inner.exports reading = Relation.offered reading j.name j.relation) :
    (((joining table columns joined clauses).ranges reading tables).map Range.name).Nodup ∧
        (∀ j ∈ joined, ∀ inner ∈ j.query.queries, (inner.exports reading).Nodup) ↔
      Apart reading table joined := by
  rw [names_of_ranges, List.nodup_cons, List.mem_map, List.Nodup, List.pairwise_map]
  constructor
  · rintro ⟨⟨table, aliases⟩, columns⟩
    refine ⟨fun j hj same => table ⟨j, hj, same⟩, aliases, fun j hj => ?_⟩
    have nodup := columns j hj j.query j.query.mem_queries
    rwa [offers j hj j.query j.query.mem_queries, nodup_offered] at nodup
  · intro apart
    refine ⟨⟨?_, apart.aliases⟩, fun j hj inner mem => ?_⟩
    · rintro ⟨j, hj, same⟩
      exact apart.table j hj same
    · rw [offers j hj inner mem, nodup_offered]
      exact apart.columns j hj

/-- If all names are spelled differently from each other, that is the end of it: aliases of different
relations are never the same. -/
theorem apart_exact {table : String} {joined : List Joined} (names : (joined.map (·.name)).Nodup) :
    Apart .exact table joined ↔ (∀ j ∈ joined, Relation.joinAlias j.name ≠ table) ∧
      ∀ j ∈ joined, j.relation.foreignColumn ≠ j.name := by
  constructor
  · intro apart
    exact ⟨apart.table, apart.columns⟩
  · rintro ⟨table, columns⟩
    refine ⟨table, (List.pairwise_map.1 names).imp fun different same => different ?_, columns⟩
    exact String.append_right_inj "t_" |>.1 same

/-- Wherever a relation is joined, its names are plain. -/
structure Joined.PlainNames (j : Joined) : Prop where
  name : isName j.name
  localColumn : isName j.relation.localColumn
  foreignColumn : isName j.relation.foreignColumn
  columns : ∀ column ∈ j.relation.fetched j.target, isName column

private theorem plainNames_of_mem {schema : Schema} {wanted : Wanted} {joined : List Joined}
    (each : joined.map (fun j => (j.name, j.relation)) = populated schema wanted)
    (plain : schema.PlainNames) {j : Joined} (hj : j ∈ joined) (target : j.target.PlainNames) :
    j.PlainNames := by
  have mem : (j.name, j.relation) ∈ populated schema wanted := each ▸ List.mem_map_of_mem hj
  obtain ⟨name, localColumn, foreignColumn, columns⟩ := plain.relations _ (List.mem_filter.1 mem).1
  exact ⟨name, localColumn, foreignColumn, Relation.isName_fetched columns target⟩

theorem exports_of_joined {j : Joined} (plain : j.PlainNames) :
    ∀ inner ∈ j.query.queries, inner.exports reading = Relation.offered reading j.name j.relation :=
  Relation.exports_of_compile reading j.compiled plain.name plain.foreignColumn plain.columns

private theorem clear_of_apart {table : String} {columns : List Value} {joined : List Joined}
    {clauses : Clauses} (plainTable : isName table) (plain : ∀ j ∈ joined, j.PlainNames)
    (apart : Apart reading table joined) {j : Joined} (hj : j ∈ joined) :
    let ranges := (joining table columns joined clauses).ranges reading tables
    ((tables (reading.bare table)).count (reading.bare j.relation.localColumn) = 1 →
      Clear reading ranges (j.localColumn table)) ∧
    Clear reading ranges j.foreignColumn ∧ Clear reading ranges (Relation.resultColumn j.name) := by
  intro ranges
  have alias_ := Relation.isName_joinAlias (plain j hj).name
  have offers : ∀ j ∈ joined, ∀ inner ∈ j.query.queries, inner.exports reading = _ :=
    fun j hj => exports_of_joined reading (plain j hj)
  have nodup : (ranges.map Range.name).Nodup := ((apart_iff reading tables offers).2 apart).1
  have shape : ranges = _ := ranges_joining reading tables table columns joined clauses
  let own : Range := ⟨reading.bare table, (tables (reading.bare table)).map some⟩
  let related : Range := ⟨reading.bare (Relation.joinAlias j.name), j.query.exports reading⟩
  have ownRange : own ∈ ranges := shape ▸ List.mem_cons_self
  have relatedRange : related ∈ ranges :=
    shape ▸ List.mem_cons_of_mem _ (List.mem_map_of_mem (f := fun j : Joined => Range.mk _ _) hj)
  have columns : related.columns = _ := offers j hj j.query j.query.mem_queries
  obtain ⟨key, payload⟩ := Relation.count_offered reading (apart.columns j hj)
  rw [← columns] at key payload
  refine ⟨fun once => ?_, ?_, ?_⟩
  · have once : own.columns.count (some (reading.bare j.relation.localColumn)) = 1 := by
      rw [List.count_map_of_injective _ _ (fun _ _ => Option.some.inj), once]
    exact clear_of_reference (reading.references_column plainTable (plain j hj).localColumn)
      (resolves_of_nodup nodup ownRange once)
  · exact clear_of_reference (reading.references_column alias_ (plain j hj).foreignColumn)
      (resolves_of_nodup nodup relatedRange key)
  · exact clear_of_reference (reading.references_quotedColumn alias_ (plain j hj).name)
      (resolves_of_nodup nodup relatedRange payload)

/-- The statement of a search is that of a query whose ranges are its table and one range for each relation
that it joins. If all names are plain, the query of a relation offers the foreign column and the payload,
as does the query inside it. The names of the ranges and those of the offered columns are different
exactly if they are read apart, and then every reference to a column means one column. -/
theorem names_apart {κ : Type} {fns : Functions} {m : ModelClass} {filter : Value} {s : Search}
    {route : Route κ} {c : Catalog} {request : Request κ (List Record)}
    (h : (findMany fns m filter s route c).1 = .ok request) :
    ∃ schema wanted columns joined clauses, m.schema = .ok schema ∧
      Wanted.ofValue s.populate = .ok wanted ∧
      joined.map (fun j => (j.name, j.relation)) = populated schema wanted ∧ (∀ j ∈ joined, j.LedTo m c) ∧
      let q := joining schema.table columns joined clauses
      q.render = .ok request.statement ∧
      (schema.PlainNames → (∀ j ∈ joined, j.target.PlainNames) →
        ∀ (reading : Reading) (tables : String → List String),
        let ranges := q.ranges reading tables
        ranges.map Range.name = reading.bare schema.table ::
          joined.map (fun j => reading.bare (Relation.joinAlias j.name)) ∧
        (∀ j ∈ joined, ∀ inner ∈ j.query.queries,
          inner.exports reading = Relation.offered reading j.name j.relation) ∧
        ((ranges.map Range.name).Nodup ∧
            (∀ j ∈ joined, ∀ inner ∈ j.query.queries, (inner.exports reading).Nodup) ↔
          Apart reading schema.table joined) ∧
        (Apart reading schema.table joined → ∀ j ∈ joined,
          ((tables (reading.bare schema.table)).count (reading.bare j.relation.localColumn) = 1 →
            Clear reading ranges (j.localColumn schema.table)) ∧
          Clear reading ranges j.foreignColumn ∧
          Clear reading ranges (Relation.resultColumn j.name) ∧
          (j.relation.kind = .hasMany →
            ∀ text ∈ j.query.texts, Clear reading (j.query.ranges reading tables) text))) := by
  obtain ⟨schema, wanted, _, columns, joined, clauses, hschema, hwanted, _, ⟨each, led⟩, _, hstatement⟩ :=
    query_of_findMany h
  refine ⟨schema, wanted, columns, joined, clauses, hschema, hwanted, each, led, hstatement, ?_⟩
  intro plainSchema plainTargets reading tables ranges
  have plain : ∀ j ∈ joined, j.PlainNames := fun j hj =>
    plainNames_of_mem each plainSchema hj (plainTargets j hj)
  have offers : ∀ j ∈ joined, ∀ inner ∈ j.query.queries, inner.exports reading = _ :=
    fun j hj => exports_of_joined reading (plain j hj)
  refine ⟨names_of_ranges .., offers, apart_iff reading tables offers, fun apart j hj => ?_⟩
  obtain ⟨own, foreign, payload⟩ := clear_of_apart reading tables plainSchema.table plain apart hj
  refine ⟨own, foreign, payload, fun many => ?_⟩
  have ⟨name, _, foreignColumn, columns⟩ := plain j hj
  exact Relation.clear_of_compile reading j.compiled name foreignColumn columns (apart.columns j hj)
    many tables

def searchAll (s : Schema) : Except Error (Request Unit (List Record)) :=
  (findMany Function.catalogue (user s) .null { populate := .bool true } .registered (registered s)).1

theorem plainNames_usersWith {name : String} (free : name ≠ "name") (h : isName name) :
    (usersWith name free).PlainNames where
  table := (by decide : isName "users" = true)
  fields := (by decide : ∀ field ∈ ["name"], isName field = true)
  relations := by
    have column : isName "id" := by decide
    intro relation mem
    obtain rfl := List.mem_singleton.1 mem
    exact ⟨h, column, column, nofun⟩

theorem names_apart_friends :
    let s := usersWith "friends" (by decide)
    let tables := fun _ => ["id", "name"]
    ∃ request columns joined clauses, searchAll s = .ok request ∧
      (joining "users" columns joined clauses).render = .ok request.statement ∧
      let ranges := (joining "users" columns joined clauses).ranges .folding tables
      ranges.map Range.name = ["users", "t_friends"] ∧ Clear .folding ranges "users.id" ∧
      Clear .folding ranges "t_friends.id" := by
  intro s tables
  obtain ⟨request, found⟩ : ∃ request, searchAll s = .ok request := ⟨_, rfl⟩
  obtain ⟨schema, wanted, columns, joined, clauses, hschema, hwanted, each, led, rendered, named⟩ :=
    names_apart found
  obtain rfl := Except.ok.inj hschema
  obtain rfl := Except.ok.inj hwanted
  refine ⟨request, columns, joined, clauses, found, rendered, ?_⟩
  obtain ⟨⟨name, r, target, query, compiled⟩, rfl, own⟩ := List.map_eq_singleton_iff.1 each
  obtain ⟨rfl, rfl⟩ := Prod.mk.inj own
  have plain : s.PlainNames := plainNames_usersWith _ (by decide)
  have targets : ∀ j ∈ [Joined.mk _ _ target query compiled], j.target.PlainNames := by
    intro j hj
    obtain ⟨d, found, hd, hfound, htarget⟩ := led j hj
    obtain rfl := List.mem_singleton.1 hj
    obtain rfl := Except.ok.inj hd
    obtain rfl := Except.ok.inj hfound
    rw [← Except.ok.inj htarget]
    exact plain
  obtain ⟨names, _, _, clear⟩ := named plain targets .folding tables
  have apart : Apart .folding s.table [Joined.mk _ _ target query compiled] :=
    ⟨by simp; decide, List.pairwise_singleton .., by simp; decide⟩
  obtain ⟨key, foreign, _⟩ := clear apart _ (List.mem_singleton_self _)
  have read : [Reading.folding.bare "users", Reading.folding.bare (Relation.joinAlias "friends")] =
      ["users", "t_friends"] := by decide
  have once : ["id", "name"].count (Reading.folding.bare "id") = 1 := by decide
  exact ⟨names.trans read, key once, foreign⟩

def aliasedUsers : Schema :=
  { usersWith "friends" (by decide) with table := "t_friends", table_ne := by decide }

def joinedFriends : Joined where
  name := "friends"
  relation :=
    { kind := .hasMany, model := "User", localColumn := "id", foreignColumn := "id", columns := none,
      transform := none }
  target := aliasedUsers
  query := _
  compiled := rfl

/-- The friends are joined to the table under its own name, so that there are two ranges of one name. -/
theorem names_clash :
    let q := joining "t_friends" [.text "t_friends.*"] [joinedFriends] {}
    let ranges := q.ranges .exact fun _ => ["id", "name"]
    aliasedUsers.PlainNames ∧
      (∃ request, searchAll aliasedUsers = .ok request ∧ q.render = .ok request.statement) ∧
      ranges.map Range.name = ["t_friends", "t_friends"] ∧ ¬(ranges.map Range.name).Nodup ∧
      ¬Clear .exact ranges "t_friends.id" := by
  intro q ranges
  have plain := plainNames_usersWith (by decide) (by decide : isName "friends")
  have names : ranges.map Range.name = ["t_friends", "t_friends"] := rfl
  refine ⟨⟨(by decide : isName "t_friends" = true), plain.fields, plain.relations⟩, ⟨_, rfl, rfl⟩, names,
    ?_, ?_⟩
  · rw [names]
    decide
  · have reference : Reading.exact.references "t_friends.id" = [("t_friends", "id")] := by decide
    rintro ⟨_, each⟩
    obtain ⟨once, _⟩ := each ("t_friends", "id") (by rw [reference]; exact List.mem_singleton_self _)
    rw [names] at once
    cases once

end Operation

end RecordMapper
