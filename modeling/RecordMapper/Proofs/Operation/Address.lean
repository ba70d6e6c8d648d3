import RecordMapper.Proofs.Operation.Scope
import RecordMapper.Proofs.Sql.Direct
import RecordMapper.Proofs.Sql.Matching

/-!
Which row is written. An update or a deletion of a record asks each primary key to equal its value, as
long as none of the values is a collection. For the members of a collection it asks one by one, and so
it is about other rows than the one that the record was stored in.
-/
namespace RecordMapper

open Sql

namespace Sql

theorem Delete.build_mapping (table : String) (filter : Mapping) :
    Delete.build table filter.toValue = .ok ⟨table, filter⟩ := by
  rw [Delete.build, Value.toMapping_toValue]
  rfl

theorem Update.build_mappings (table : String) {values : Mapping} (some : values.entries ≠ [])
    (filter : Mapping) :
    Update.build table values.toValue filter.toValue true = .ok ⟨table, values, filter, true⟩ := by
  have given : values.toValue.truthy = true := by simpa [OrderedMap.toValue, Value.truthy] using some
  rw [Update.build, given, Value.orEmpty_toMapping (Value.toMapping_toValue filter),
    Value.toMapping_toValue]
  rfl

theorem Update.mapM_assignment {es : Entries} (storable : ∀ e ∈ es, ∃ v, stored e.2 = .ok v) :
    es.mapM Update.assignment =
      .ok (es.map fun e => [.word (e.1.shown ++ " = "), .bind (storedForm e.2)]) := by
  rw [mapM_eq_ok, List.forall₂_map_right_iff, List.forall₂_same]
  intro e he
  obtain ⟨v, hv⟩ := storable e he
  rw [Update.assignment, hv, ← stored_eq_ok hv]
  rfl

end Sql

namespace Record

/-- The record is asked for its keys only, when it is asked for an operation on its row. -/
structure Offers (r : Record) (o : RecordOperation) : Prop where
  own : r.hiding? o = none
  keys : r.hiding? .primary = none
  required : r.hiding? .requirePrimary = none

/-- Each primary key equals its value, which is bound as it is. -/
def keyEqualities (r : Record) : List Piece := .word " WHERE " :: equalities r.valueOf r.keyNames

theorem whereClause_primary (r : Record) :
    whereClause r.primary = .word " WHERE " :: asked r.valueOf r.keyNames := by
  have some : r.primary.isEmpty = false := by
    rw [OrderedMap.isEmpty, List.isEmpty_eq_false_iff, entries_primary]
    exact r.keyEntries_ne_nil
  rw [whereClause, some, if_neg Bool.false_ne_true, conjuncts, entries_primary, keyEntries, List.map_map]
  rfl

theorem keys_set {r : Record} (set : r.unsetKeys = []) : ∀ key ∈ r.keyNames, r.valueOf key ≠ .null := by
  intro key here null
  have unset : key ∈ r.unsetKeys := mem_unsetKeys.2 ⟨mem_keyNames.1 here, null⟩
  rw [set] at unset
  cases unset

theorem matches_primary {r : Record} (set : r.unsetKeys = []) (equal : Value → Value → Prop)
    (row : String → Value) :
    Matches equal r.primary row ↔
      ∀ key ∈ r.keyNames, ∃ v ∈ (r.valueOf key).choices, equal (row key) v := by
  rw [Matches, entries_primary, keyEntries, List.forall_mem_map]
  exact forall₂_congr fun key here => Condition.meets_ofValue equal (row key) (keys_set set key here)

end Record

namespace Operation

/-- Between other pieces, the statement asks what a filter of the primary keys asks. These are the
equalities of keys and values exactly if no value is a collection. -/
structure Addressed (r : Record) (front back : List Piece) (s : Statement) : Prop where
  asks : s = .ofPieces (front ++ whereClause r.primary ++ back)
  whole : s = .ofPieces (front ++ r.keyEqualities ++ back) ↔
    ∀ key ∈ r.keyNames, (r.valueOf key).isCollection = false

theorem addressed {r : Record} (set : r.unsetKeys = []) {front back : List Piece} {s : Statement}
    (asks : s = .ofPieces (front ++ whereClause r.primary ++ back)) : Addressed r front back s := by
  refine ⟨asks, ?_⟩
  have behind (clause : List Piece) :
      front ++ .word " WHERE " :: clause ++ back = front ++ [.word " WHERE "] ++ clause ++ back := by simp
  rw [asks, Record.whereClause_primary, Record.keyEqualities, behind, behind]
  exact ofPieces_asked_iff r.valueOf (Record.keys_set set) _ back

section

variable {κ : Type} {replies : Replies κ} {c : Catalog} {route : Route κ} {r : Record}
  {sent : Target κ × Statement}

theorem eq_of_oneRow {clause : List Piece} (h : OneRow r clause) : clause = whereClause r.primary := by
  obtain ⟨⟨_, conditions, each, rfl⟩, _⟩ := h
  rw [Record.keyEntries, List.forall₂_map_left_iff] at each
  have same : r.keyNames.map (fun key => (Condition.ofValue (r.valueOf key)).pieces key) = conditions := by
    have eq : List.Forall₂ (· = ·) (r.keyNames.map fun key =>
        (Condition.ofValue (r.valueOf key)).pieces key) conditions := by
      rw [List.forall₂_map_left_iff]
      exact each
    rwa [List.forall₂_eq_eq_eq] at eq
  rw [Record.whereClause_primary, asked, same]

theorem addressed_of_delete (answers : r.AnswersForKeys) (set : r.unsetKeys = [])
    (h : sent ∈ (observe replies (delete r route) c).2) :
    Addressed r [.word ("DELETE FROM " ++ r.schema.table)] [] sent.2 := by
  obtain ⟨clause, deletes, one | ⟨hidden, _⟩⟩ := deletes_of_delete h
  · apply addressed set
    rw [deletes, eq_of_oneRow one]
    simp
  · exact absurd answers hidden

theorem addressed_of_update (answers : r.AnswersForKeys) (set : r.unsetKeys = [])
    (h : sent ∈ (observe replies (update r route) c).2) :
    ∃ assignments, Addressed r (.word ("UPDATE " ++ r.schema.table ++ " SET ") :: assignments)
      [.word " RETURNING *"] sent.2 := by
  obtain ⟨clause, ⟨assignments, updates⟩, one | ⟨hidden, _⟩⟩ := updates_of_update h
  · refine ⟨assignments, addressed set ?_⟩
    rw [updates, eq_of_oneRow one]
  · exact absurd answers hidden

theorem requirePrimary_of_offers {o : RecordOperation} (offers : r.Offers o) (set : r.unsetKeys = []) :
    r.requirePrimary = .ok r.primary.toValue := by
  rw [Record.requirePrimary_eq offers.keys offers.required, if_pos set]

private theorem delete_sends (replies : Replies κ) (offers : r.Offers .delete) (set : r.unsetKeys = [])
    {t : Target κ} (reached : target c r.model route = .ok t) :
    ∃ s, (observe replies (delete r route) c).2 = [(t, s)] := by
  have request : (delete r route c).1 =
      .ok ⟨t, .ofPieces (Delete.pieces ⟨r.schema.table, r.primary⟩), pure⟩ := by
    rw [delete_fst]
    refine bind_eq_ok.2 ⟨(), Record.offer_eq_ok offers.own, ?_⟩
    refine bind_eq_ok.2 ⟨_, requirePrimary_of_offers offers set, ?_⟩
    refine bind_eq_ok.2 ⟨_, Delete.build_mapping .., ?_⟩
    exact bind_eq_ok.2 ⟨_, Delete.render_eq _, sending_eq_ok reached⟩
  exact ⟨_, congrArg Prod.snd (observe_of_ok request)⟩

private theorem update_sends (replies : Replies κ) (offers : r.Offers .update) (values : r.hiding? .values = none)
    (set : r.unsetKeys = []) (some : (r.values false).entries ≠ [])
    (storable : ∀ e ∈ (r.values false).entries, ∃ v, stored e.2 = .ok v) {t : Target κ}
    (reached : target c r.model route = .ok t) :
    ∃ s, (observe replies (update r route) c).2 = [(t, s)] := by
  obtain ⟨s, rendered⟩ : ∃ s, Update.render ⟨r.schema.table, r.values false, r.primary, true⟩ = .ok s := by
    rw [Update.render_eq]
    exact ⟨_, bind_eq_ok.2 ⟨_, bind_eq_ok.2 ⟨_, Update.mapM_assignment storable, rfl⟩, rfl⟩⟩
  have request : (update r route c).1 = .ok ⟨t, s, pure⟩ := by
    rw [update_fst]
    refine bind_eq_ok.2 ⟨(), Record.offer_eq_ok offers.own, ?_⟩
    refine bind_eq_ok.2 ⟨_, requirePrimary_of_offers offers set, ?_⟩
    refine bind_eq_ok.2 ⟨_, Record.ask_eq_own values _, ?_⟩
    refine bind_eq_ok.2 ⟨_, Update.build_mappings _ some _, ?_⟩
    exact bind_eq_ok.2 ⟨s, rendered, sending_eq_ok reached⟩
  exact ⟨_, congrArg Prod.snd (observe_of_ok request)⟩

end

/-- A write of a record that has all of its keys asks for them, and each key equals its value, bound as
it is, exactly if no key is a collection. The rows that match have the value of each key or, of a
collection, one of its members. The write is sent wherever the model is, unless the record hides what
it is asked for or has no values that can be stored. -/
theorem writes_addressed {κ : Type} (replies : Replies κ) (c : Catalog) (route : Route κ) {r : Record}
    (answers : r.AnswersForKeys) (set : r.unsetKeys = []) :
    (∀ sent ∈ (observe replies (delete r route) c).2,
      Addressed r [.word ("DELETE FROM " ++ r.schema.table)] [] sent.2) ∧
    (∀ sent ∈ (observe replies (update r route) c).2,
      ∃ assignments, Addressed r (.word ("UPDATE " ++ r.schema.table ++ " SET ") :: assignments)
        [.word " RETURNING *"] sent.2) ∧
    (∀ equal row, Matches equal r.primary row ↔
      ∀ key ∈ r.keyNames, ∃ v ∈ (r.valueOf key).choices, equal (row key) v) ∧
    ∀ t, target c r.model route = .ok t →
      (r.Offers .delete → ∃ s, (observe replies (delete r route) c).2 = [(t, s)]) ∧
      (r.Offers .update → r.hiding? .values = none → (r.values false).entries ≠ [] →
        (∀ e ∈ (r.values false).entries, ∃ v, stored e.2 = .ok v) →
          ∃ s, (observe replies (update r route) c).2 = [(t, s)]) :=
  ⟨fun _ => addressed_of_delete answers set, fun _ => addressed_of_update answers set,
    Record.matches_primary set, fun _ reached =>
      ⟨fun offers => delete_sends replies offers set reached,
        fun offers values some storable => update_sends replies offers values set some storable reached⟩⟩

theorem writes_addressed_ada :
    let r := ada users (.int 1)
    (r.AnswersForKeys ∧ r.unsetKeys = []) ∧
    (observe silent (delete r (.given ())) {}).2 =
      [(.given (), .ofPieces (.word "DELETE FROM users" :: r.keyEqualities))] ∧
    (∃ s, (observe silent (update r (.given ())) {}).2 = [(.given (), s)]) ∧
    Matches (· = ·) r.primary (fun _ => .int 1) ∧ ¬ Matches (· = ·) r.primary fun _ => .int 2 := by
  intro r
  have answers : r.AnswersForKeys := ⟨nofun, nofun⟩
  have names : r.keyNames = ["id"] := rfl
  have choices : (r.valueOf "id").choices = [.int 1] := rfl
  have values : (r.values false).entries = [(.text "name", .text "ada")] := rfl
  obtain ⟨deletion, _, rows, sends⟩ := writes_addressed silent {} (.given ()) answers rfl
  obtain ⟨deleted, updated⟩ := sends (.given ()) rfl
  have storable : ∀ e ∈ (r.values false).entries, ∃ v, stored e.2 = .ok v := by
    rw [values]
    exact fun e he => List.mem_singleton.1 he ▸ ⟨_, rfl⟩
  refine ⟨⟨answers, rfl⟩, ?_, updated ⟨rfl, rfl, rfl⟩ rfl nofun storable, ?_, ?_⟩
  · obtain ⟨s, sent⟩ := deleted ⟨rfl, rfl, rfl⟩
    have whole := (deletion _ (by rw [sent]; exact List.mem_singleton_self _)).whole
    have same : s = _ := whole.2 (by simp [names]; rfl)
    rw [sent, same]
    rfl
  · simp [rows, names, choices]
  · simp [rows, names, choices]

/-- A list that is meant for one key is taken for several. -/
theorem list_key_spread :
    let r := ada users (.list [.int 1, .int 2])
    Record.build Function.catalogue (user users) (.list [.int 1, .int 2])
      (.dict [(.text "name", .text "ada")]) .null true = .ok r ∧
    (observe silent (delete r (.given ())) {}).2 =
      [(.given (), ⟨"DELETE FROM users WHERE id IN (:p_0, :p_1)", [.int 1, .int 2]⟩)] ∧
    Statement.ofPieces (.word "DELETE FROM users" :: r.keyEqualities) =
      ⟨"DELETE FROM users WHERE id = :p_0", [.list [.int 1, .int 2]]⟩ ∧
    Matches (· = ·) r.primary (fun _ => .int 1) ∧ Matches (· = ·) r.primary fun _ => .int 2 := by
  have key : (ada users (.list [.int 1, .int 2])).primary.entries =
      [(.text "id", .list [.int 1, .int 2])] := rfl
  refine ⟨rfl, rfl, rfl, ?_, ?_⟩
  · simp [Matches, key, Condition.ofValue, Condition.Meets]
  · simp [Matches, key, Condition.ofValue, Condition.Meets]

end Operation

end RecordMapper
