import RecordMapper.Function.Catalogue
import RecordMapper.Proofs.Operation.Sending
import RecordMapper.Proofs.Record.Asked
import RecordMapper.Proofs.Sql.Command

/-!
Which rows are written. A deletion or an update that is sent names its rows by a condition for each
entry of the filter, or for each primary key of the record. This needs a record that answers for its
keys itself: a class that hides them answers that there are none.
-/
namespace RecordMapper

namespace Sql

/-- The clause asks one thing of each of some columns. -/
def Asks (entries : Entries) (clause : List Piece) : Prop :=
  entries ≠ [] ∧ ∃ conditions,
    List.Forall₂ (fun e ps => (Condition.ofValue e.2).pieces e.1.shown = ps) entries conditions ∧
    clause = .word " WHERE " :: separatedBy " AND " conditions

theorem asks_whereClause {filter : Mapping} (some : filter.entries ≠ []) :
    Asks filter.entries (whereClause filter) := by
  refine ⟨some, conjuncts filter, ?_, ?_⟩
  · rw [conjuncts, List.forall₂_map_right_iff]
    exact List.forall₂_same.2 fun _ _ => rfl
  · have there : filter.isEmpty = false := by
      rw [OrderedMap.isEmpty, List.isEmpty_eq_false_iff]
      exact some
    rw [whereClause, there]
    rfl

private theorem whereClause_empty : whereClause .empty = [] := rfl

theorem Delete.build_eq_ok {table : String} {filter : Value} {q : Delete}
    (h : build table filter = .ok q) : q.table = table ∧ filter.toMapping = .ok q.filter := by
  obtain ⟨m, hm, h⟩ := bind_eq_ok.1 h
  obtain rfl := pure_eq_ok.1 h
  exact ⟨rfl, hm⟩

theorem Update.build_eq_ok {table : String} {values filter : Value} {returning : Bool} {q : Update}
    (h : build table values filter returning = .ok q) :
    q.table = table ∧ filter.orEmpty.toMapping = .ok q.filter ∧ q.returning = returning := by
  unfold build at h
  split at h
  · obtain ⟨set, _, h⟩ := bind_eq_ok.1 h
    obtain ⟨m, hm, h⟩ := bind_eq_ok.1 h
    obtain rfl := pure_eq_ok.1 h
    exact ⟨rfl, hm, rfl⟩
  · cases h

def Deletes (table : String) (clause : List Piece) (s : Statement) : Prop :=
  s = .ofPieces (.word ("DELETE FROM " ++ table) :: clause)

def Updates (table : String) (clause : List Piece) (s : Statement) : Prop :=
  ∃ assignments, s = .ofPieces (.word ("UPDATE " ++ table ++ " SET ") :: assignments ++ clause ++
    [.word " RETURNING *"])

theorem Update.updates_of_render {q : Update} {s : Statement} (returning : q.returning = true)
    (h : q.render = .ok s) : Updates q.table (whereClause q.filter) s := by
  obtain ⟨ps, hps, rfl⟩ := Command.render_eq_ok (c := .update q) h
  obtain ⟨assignments, _, rfl⟩ := pieces_eq_ok hps
  rw [returning]
  exact ⟨_, rfl⟩

end Sql

namespace Operation

open Sql

/-- The clause names one row, by all of its primary keys. -/
def OneRow (r : Record) (clause : List Piece) : Prop :=
  Asks r.keyEntries clause ∧ r.unsetKeys = []

section

variable {κ : Type} {replies : Replies κ} {c : Catalog} {route : Route κ} {m : ModelClass} {r : Record}
  {sent : Target κ × Sql.Statement}

private theorem deletes_of_deleteMany {filter : Mapping}
    (h : sent ∈ (observe replies (deleteMany m filter.toValue route) c).2) :
    ∃ schema clause, m.schema = .ok schema ∧ Asks filter.entries clause ∧
      Deletes schema.table clause sent.2 := by
  obtain ⟨request, hr, rfl⟩ := mem_observe h
  obtain ⟨given, schema, q, hschema, hq, requests⟩ := deleteMany_eq_ok hr
  obtain ⟨table, found⟩ := Delete.build_eq_ok hq
  have same : filter = q.filter := by simpa using found
  have some : filter.entries ≠ [] := by simpa [OrderedMap.toValue, Value.truthy] using given
  refine ⟨schema, whereClause filter, hschema, asks_whereClause some, ?_⟩
  rw [Deletes, requests.statement, same, ← table]
  rfl

private theorem deleteMany_unscoped {filter : Value} (h : filter.truthy = false) :
    observe replies (deleteMany m filter route) c = (.error .unscopedDelete, []) := by
  apply observe_of_error
  rw [deleteMany_fst, h]
  rfl

theorem oneRow_or_empty {primary : Value} {filter : Mapping} (h : r.requirePrimary = .ok primary)
    (hf : primary.orEmpty.toMapping = .ok filter) :
    OneRow r (whereClause filter) ∨ (¬ r.AnswersForKeys ∧ whereClause filter = []) := by
  rcases Record.requirePrimary_eq_ok h with ⟨rfl, set⟩ | ⟨hidden, empty⟩
  · have own := Value.orEmpty_toMapping (Value.toMapping_toValue r.primary)
    obtain rfl := Except.ok.inj (own.symm.trans hf)
    have some : r.primary.entries ≠ [] := r.entries_primary ▸ r.keyEntries_ne_nil
    exact .inl ⟨r.entries_primary ▸ asks_whereClause some, set⟩
  · exact .inr ⟨hidden, by rw [empty filter hf, whereClause_empty]⟩

theorem deletes_of_delete (h : sent ∈ (observe replies (delete r route) c).2) :
    ∃ clause, Deletes r.schema.table clause sent.2 ∧
      (OneRow r clause ∨ (¬ r.AnswersForKeys ∧ clause = [])) := by
  obtain ⟨request, hr, rfl⟩ := mem_observe h
  obtain ⟨_, primary, q, hprimary, hq, requests⟩ := delete_eq_ok hr
  obtain ⟨table, filter⟩ := Delete.build_eq_ok hq
  refine ⟨whereClause q.filter, ?_, oneRow_or_empty hprimary (Value.orEmpty_toMapping filter)⟩
  rw [Deletes, requests.statement, ← table]
  rfl

theorem updates_of_update (h : sent ∈ (observe replies (update r route) c).2) :
    ∃ clause, Updates r.schema.table clause sent.2 ∧
      (OneRow r clause ∨ (¬ r.AnswersForKeys ∧ clause = [])) := by
  obtain ⟨request, hr, rfl⟩ := mem_observe h
  obtain ⟨_, primary, values, q, s, hprimary, _, hq, hs, requests⟩ := update_eq_ok hr
  obtain ⟨table, filter, returning⟩ := Update.build_eq_ok hq
  refine ⟨whereClause q.filter, ?_, oneRow_or_empty hprimary filter⟩
  rw [requests.statement, ← table]
  exact Update.updates_of_render returning hs

private theorem requirePrimary_unset (keys : r.hiding? .primary = none)
    (required : r.hiding? .requirePrimary = none) (unset : r.unsetKeys ≠ []) :
    r.requirePrimary = .error (.missingPrimary r.model.ref.name r.unsetKeys) := by
  rw [Record.requirePrimary_eq keys required, if_neg unset]

end

/-- No deletion goes on without a filter, and what is sent asks one thing for each entry of the filter.
What is sent to delete or to update a record asks one thing for each primary key, all of which have a
value; only a class in front of the keys lets it be about the whole table. A record that hides nothing
fails for the keys that it has no value for, and nothing is sent. -/
theorem writes_scoped {κ : Type} (replies : Replies κ) (c : Catalog) (route : Route κ) :
    (∀ (m : ModelClass) (filter : Mapping),
      ∀ sent ∈ (observe replies (deleteMany m filter.toValue route) c).2,
        ∃ schema clause, m.schema = .ok schema ∧ Asks filter.entries clause ∧
          Deletes schema.table clause sent.2) ∧
    (∀ (m : ModelClass) (filter : Value), filter.truthy = false →
      observe replies (deleteMany m filter route) c = (.error .unscopedDelete, [])) ∧
    (∀ r : Record, ∀ sent ∈ (observe replies (delete r route) c).2,
      ∃ clause, Deletes r.schema.table clause sent.2 ∧
        (OneRow r clause ∨ (¬ r.AnswersForKeys ∧ clause = []))) ∧
    (∀ r : Record, ∀ sent ∈ (observe replies (update r route) c).2,
      ∃ clause, Updates r.schema.table clause sent.2 ∧
        (OneRow r clause ∨ (¬ r.AnswersForKeys ∧ clause = []))) ∧
    ∀ r : Record, r.hiding? .primary = none → r.hiding? .requirePrimary = none → r.unsetKeys ≠ [] →
      let missing := Error.missingPrimary r.model.ref.name r.unsetKeys
      (r.hiding? .delete = none → observe replies (delete r route) c = (.error missing, [])) ∧
      (r.hiding? .update = none → observe replies (update r route) c = (.error missing, [])) := by
  refine ⟨fun m filter sent => deletes_of_deleteMany, fun m filter => deleteMany_unscoped,
    fun r sent => deletes_of_delete, fun r sent => updates_of_update, fun r keys required unset => ?_⟩
  have missing := requirePrimary_unset keys required unset
  constructor
  · intro offered
    apply observe_of_error
    rw [delete_fst, Record.offer_eq_ok offered, missing]
    rfl
  · intro offered
    apply observe_of_error
    rw [update_fst, Record.offer_eq_ok offered, missing]
    rfl

theorem writes_scoped_ada :
    let deletion : Sql.Statement := ⟨"DELETE FROM users WHERE id = :p_0", [.int 1]⟩
    (observe silent (delete (ada users (.int 1)) (.given ())) {}).2 = [(.given (), deletion)] ∧
      (∃ clause, Deletes "users" clause deletion ∧ Asks [(.text "id", .int 1)] clause) ∧
      observe silent (delete (ada users .null) (.given ())) {} =
        (.error (.missingPrimary "User" ["id"]), []) ∧
      observe silent (deleteMany (user users) .null (.given ())) {} =
        (.error .unscopedDelete, []) := by
  have sent : (observe silent (delete (ada users (.int 1)) (.given ())) {}).2 =
      [(.given (), ⟨"DELETE FROM users WHERE id = :p_0", [.int 1]⟩)] := rfl
  have answers : (ada users (.int 1)).AnswersForKeys := ⟨nofun, nofun⟩
  obtain ⟨_, unscoped, deletion, _, unset⟩ := writes_scoped silent {} (.given ())
  obtain ⟨clause, deleted, one | ⟨hidden, _⟩⟩ := deletion _ _ (by
    rw [sent]
    exact List.mem_singleton_self _)
  · exact ⟨sent, ⟨clause, deleted, one.1⟩, (unset (ada users .null) rfl rfl nofun).1 rfl,
      unscoped (user users) .null rfl⟩
  · exact absurd answers hidden

/-- A class under the name of the operation that tells the keys leaves a deletion without condition. -/
theorem delete_unscoped :
    let hidden : Record := { ada users (.int 1) with
      attributes := .ofFields [("name", .text "ada"), ("get_primary", .callable (.constructor .dict)),
        ("id", .int 1)] }
    Record.build Function.catalogue (user users) (.int 1)
      (.dict [(.text "name", .text "ada"), (.text "get_primary", .callable (.constructor .dict))])
      .null false = .ok hidden ∧
    observe silent (delete hidden (.given ())) {} =
      (.ok (.list []), [(.given (), ⟨"DELETE FROM users", []⟩)]) :=
  ⟨rfl, rfl⟩

end Operation

end RecordMapper
