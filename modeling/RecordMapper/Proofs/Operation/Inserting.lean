import RecordMapper.Proofs.Operation.Sending
import RecordMapper.Proofs.Sql.Rereading

/-!
How many rows an insertion creates. Rows without any key become one row of defaults, however many they
are; if only one of them has a key, all of them are created.
-/
namespace RecordMapper

open Sql

namespace Operation

variable {κ : Type} {rows : List Mapping}

private theorem size_ofRows :
    (Content.ofRows rows).size = rows.length ↔ rows.length = 1 ∨ ∃ row ∈ rows, row.entries ≠ [] := by
  by_cases key : ∃ row ∈ rows, row.entries ≠ []
  · rw [Content.ofRows_of_key key]
    simp [Content.size, tuplesOf, key]
  · have blank : ∀ row ∈ rows, row.entries = [] := by simpa using key
    rw [Content.ofRows_of_blank blank]
    simp only [Content.size, key, or_false]
    exact eq_comm

private theorem insert_eq_ok {m : ModelClass} {data : Value} {route : Route κ} {c : Catalog}
    {request : Request κ Reply} (given : data.truthy) (h : (insert m data route c).1 = .ok request) :
    ∃ schema, m.schema = .ok schema ∧
      Insert.statement schema.table data .null true = .ok request.statement := by
  obtain ⟨schema, hschema, h⟩ := Action.bind_eq_ok.1 h
  obtain ⟨query, hquery, h⟩ := Action.bind_eq_ok.1 h
  obtain ⟨s, hs, h⟩ := Action.bind_eq_ok.1 h
  rw [(requests_of_sending h).statement]
  rw [Value.orEmpty, if_pos given] at hquery
  exact ⟨schema, hschema, bind_eq_ok.2 ⟨query, hquery, hs⟩⟩

theorem sent_of_insert (some : rows ≠ []) {replies : Replies κ} {m : ModelClass} {route : Route κ}
    {c : Catalog} {sent : Target κ × Statement}
    (h : sent ∈ (observe replies (insert m (.list (rows.map OrderedMap.toValue)) route) c).2) :
    ∃ schema, m.schema = .ok schema ∧ sent.2 = Insert.written schema.table rows [] true := by
  obtain ⟨request, hrequest, rfl⟩ := mem_observe h
  have given : (Value.list (rows.map OrderedMap.toValue)).truthy := by
    simpa [Value.truthy] using some
  obtain ⟨schema, hschema, hstatement⟩ := insert_eq_ok given hrequest
  obtain ⟨_, target, htarget, _, hs⟩ := (Insert.statement_mappings some).1 hstatement
  obtain rfl := pure_eq_ok.1 htarget
  exact ⟨schema, hschema, hs⟩

/-- The statement for rows, be it rendered or sent, creates all of them exactly if there is only one or
one of them has a key. -/
theorem created_by_insertion (some : rows ≠ []) :
    (∀ table keys returning s,
      Insert.statement table (.list (rows.map OrderedMap.toValue)) keys returning = .ok s →
        ∃ target, s = Insert.written table rows target returning) ∧
    (∀ (replies : Replies κ) (m : ModelClass) (route : Route κ) (c : Catalog),
      ∀ sent ∈ (observe replies (insert m (.list (rows.map OrderedMap.toValue)) route) c).2,
        ∃ schema, m.schema = .ok schema ∧ sent.2 = Insert.written schema.table rows [] true) ∧
    ((Content.ofRows rows).size = rows.length ↔
      rows.length = 1 ∨ ∃ row ∈ rows, row.entries ≠ []) := by
  refine ⟨fun table keys returning s h => ?_, fun replies m route c sent h => ?_, size_ofRows⟩
  · obtain ⟨_, target, _, _, hs⟩ := (Insert.statement_mappings some).1 h
    exact ⟨target, hs⟩
  · exact sent_of_insert some h

set_option maxRecDepth 4000 in
theorem created_by_insertion_members :
    members ≠ [] ∧
      (observe silent (insert (user users) (.list (members.map OrderedMap.toValue)) (.given ())) {}).2 =
        [(.given (), membersInserted)] ∧
      membersInserted = Insert.written "users" members [] true ∧ (Content.ofRows members).size = 3 := by
  have some : members ≠ [] := List.cons_ne_nil _ _
  have sends : (observe silent (insert (user users) (.list (members.map OrderedMap.toValue)) (.given ()))
      {}).2 = [(.given (), membersInserted)] := rfl
  obtain ⟨_, sent, size⟩ := @created_by_insertion Unit members some
  obtain ⟨schema, known, written⟩ := sent silent (user users) (.given ()) {} (.given (), membersInserted)
    (by rw [sends]; exact List.mem_singleton_self _)
  obtain rfl : users = schema := Except.ok.inj known
  exact ⟨some, sends, written, size.2 (.inr ⟨_, List.mem_cons_self .., List.cons_ne_nil _ _⟩)⟩

/-- Two rows of defaults are given, and one is created. -/
theorem row_lost :
    let rows : List Mapping := [.empty, .empty]
    let s : Statement := ⟨"INSERT INTO users DEFAULT VALUES RETURNING *", []⟩
    Insert.statement "users" (.list (rows.map OrderedMap.toValue)) .null true = .ok s ∧
      (observe silent (insert (user users) (.list (rows.map OrderedMap.toValue)) (.given ())) {}).2 =
        [(.given (), s)] ∧
      Content.read? s = some .defaults ∧ s = Insert.written "users" rows [] true ∧
      (Content.ofRows rows).size ≠ rows.length :=
  ⟨rfl, rfl, rfl, rfl, by decide⟩

end Operation

end RecordMapper
