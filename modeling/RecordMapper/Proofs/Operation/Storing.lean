import RecordMapper.Function.Catalogue
import RecordMapper.Proofs.Operation.Sending
import RecordMapper.Proofs.Record.Columns
import RecordMapper.Proofs.Session.Frame
import RecordMapper.Proofs.Sql.SingleRow

/-!
What is written to store a record, and what storing changes. The statement is known from the record in
full. Afterwards the record has the primary keys of the row that comes back, and all else as it was.
-/
namespace RecordMapper

open Sql

def Record.insertion (r : Record) (insertOnly : Bool) : List Piece :=
  Insert.single r.schema.table (r.storedColumns.map fun name => (name, storedForm (r.valueOf name)))
    (if insertOnly then [] else Insert.upserting r.storedColumns r.schema.primary)

namespace Operation

private theorem items_conflictKeys (r : Record) (only : Bool) :
    (if (conflictKeys r only).truthy then (conflictKeys r only).toItems else pure []) =
      .ok (if only then [] else r.schema.primary.map .text) := by
  cases only with
  | true => rfl
  | false =>
    have some : (Value.list (r.schema.primary.map .text)).truthy = true := by
      simpa [Value.truthy] using r.schema.primary_ne
    rw [conflictKeys, if_neg Bool.false_ne_true, some, if_neg Bool.false_ne_true]
    rfl

private theorem conflictClause_keys (r : Record) (only : Bool) :
    Insert.conflictClause (r.storedColumns.map .text) (if only then [] else r.schema.primary.map .text) =
      .ok (if only then [] else Insert.upserting r.storedColumns r.schema.primary) := by
  cases only with
  | true => rfl
  | false => exact Insert.conflictClause_texts _ r.schema.primary_ne

theorem render_stored {r : Record} {row : Mapping} (hrow : r.storedRow = .ok row) (only : Bool)
    {s : Statement} :
    (Insert.build r.schema.table row.toValue (conflictKeys r only) true >>= Insert.render) = .ok s ↔
      (∀ name ∈ r.storedColumns, Storable (r.valueOf name)) ∧ s = .ofPieces (r.insertion only) := by
  rw [Insert.build_row r.schema.table row (items_conflictKeys r only), ok_bind, Insert.render_eq]
  exact bind_pure_eq_ok fun _ =>
    Insert.pieces_row (Record.entries_storedRow hrow) r.schema.table (conflictClause_keys r only)

section

variable {κ : Type} {replies : Replies κ} {c : Catalog} {route : Route κ} {r : Record}
  {options : List (String × Value)}

theorem insertion_of_save {sent : Target κ × Statement}
    (h : sent ∈ (observe replies (save r options route) c).2) :
    ∃ only, insertOnly options = .ok only ∧ (∀ name ∈ r.storedColumns, Storable (r.valueOf name)) ∧
      sent.2 = .ofPieces (r.insertion only) := by
  obtain ⟨request, hr, rfl⟩ := mem_observe h
  obtain ⟨_, only, row, q, s, honly, hrow, hq, hs, requests⟩ := save_eq_ok hr
  have rendered : (Insert.build r.schema.table row.toValue (conflictKeys r only) true >>= Insert.render) =
      .ok s := bind_eq_ok.2 ⟨q, hq, hs⟩
  obtain ⟨storable, rfl⟩ := (render_stored hrow only).1 rendered
  exact ⟨only, honly, storable, requests.statement⟩

theorem save_sends (replies : Replies κ) (own : r.hiding? .save = none) (keys : r.hiding? .primary = none)
    (values : r.hiding? .values = none) {only : Bool} (honly : insertOnly options = .ok only)
    (storable : ∀ name ∈ r.storedColumns, Storable (r.valueOf name)) {t : Target κ}
    (reached : target c r.model route = .ok t) :
    (observe replies (save r options route) c).2 = [(t, .ofPieces (r.insertion only))] := by
  have hrow := Record.storedRow_of_free keys values
  obtain ⟨q, hq, hs⟩ := bind_eq_ok.1 ((render_stored hrow only).2 ⟨storable, rfl⟩)
  have request : (save r options route c).1 = .ok ⟨t, .ofPieces (r.insertion only),
      fun reply => do return (reply, ← r.adoptKeys reply)⟩ := by
    rw [save_fst]
    refine bind_eq_ok.2 ⟨(), Record.offer_eq_ok own, ?_⟩
    refine bind_eq_ok.2 ⟨only, honly, ?_⟩
    refine bind_eq_ok.2 ⟨_, hrow, ?_⟩
    refine bind_eq_ok.2 ⟨q, hq, ?_⟩
    exact bind_eq_ok.2 ⟨_, hs, sending_eq_ok reached⟩
  exact congrArg Prod.snd (observe_of_ok request)

private theorem adopted_of_save {reply : Reply} {r' : Record}
    (h : (observe replies (save r options route) c).1 = .ok (reply, r')) : r.adoptKeys reply = .ok r' := by
  cases outcome : (save r options route c).1 with
  | error e =>
    rw [observe_of_error outcome] at h
    cases h
  | ok request =>
    obtain ⟨_, _, _, _, _, _, _, _, _, requests⟩ := save_eq_ok outcome
    rw [observe_of_ok outcome, requests.finish] at h
    obtain ⟨_, _, h⟩ := bind_eq_ok.1 h
    obtain ⟨_, adopted, h⟩ := bind_eq_ok.1 h
    obtain ⟨rfl, rfl⟩ := Prod.mk.inj (pure_eq_ok.1 h)
    exact adopted

private theorem keys_of_rows {rows : List Row} {r' : Record} (h : r.adoptKeys (.ofRows rows) = .ok r') :
    ∀ key ∈ r.schema.primary, r'.attributes.get? (.text key) =
      (rows.head?.bind (·.get? (.text key))).or (r.attributes.get? (.text key)) := by
  intro key here
  cases rows with
  | nil =>
    obtain rfl := Except.ok.inj h
    rfl
  | cons first rest =>
    obtain rfl := Except.ok.inj ((Record.adoptKeys_ofRows first rest r).symm.trans h)
    rw [Record.get?_foldl_adopted, if_pos here]
    rfl

end

/-- What is written to store a record, whatever its attributes are. The columns are those primary keys
that have a value, and those declared fields that are there, each of them once, unless something
hides the answers of the record; a relation is none of them unless it has the name of a primary key.
Each column has its value, and the clause for a row that is there already is about the primary keys and
updates the other columns, unless rows are only inserted. A record that hides nothing is stored
wherever its model is. Afterwards primary keys are those of the first row that comes back, as far as it
has them, and nothing else differs; in a session no other record does, and none if anything fails. -/
theorem record_stored {κ : Type} (replies : Replies κ) (c : Catalog) (route : Route κ) (r : Record)
    (options : List (String × Value)) :
    r.storedColumns.Nodup ∧
    (∀ name, name ∈ r.storedColumns ↔
      (r.hiding? .primary = none ∧ name ∈ r.schema.primary ∧ r.valueOf name ≠ .null) ∨
        (r.hiding? .values = none ∧ name ∈ r.schema.fieldNames ∧ r.hasValue name)) ∧
    (∀ name ∈ r.storedColumns, name ∈ r.schema.relations.keys → name ∈ r.schema.primary) ∧
    (∀ sent ∈ (observe replies (save r options route) c).2,
      ∃ only, insertOnly options = .ok only ∧ sent.2 = .ofPieces (r.insertion only)) ∧
    (∀ only t, r.hiding? .save = none → r.hiding? .primary = none → r.hiding? .values = none →
      insertOnly options = .ok only → (∀ name ∈ r.storedColumns, Storable (r.valueOf name)) →
      target c r.model route = .ok t →
        (observe replies (save r options route) c).2 = [(t, .ofPieces (r.insertion only))]) ∧
    (∀ reply r', (observe replies (save r options route) c).1 = .ok (reply, r') →
      r.SameBesides r.schema.primary r' ∧
      ∀ rows, reply = .ofRows rows → ∀ key ∈ r.schema.primary, r'.attributes.get? (.text key) =
        (rows.head?.bind (·.get? (.text key))).or (r.attributes.get? (.text key))) ∧
    ∀ {ω : Type} (route : Route (Connection Recording)) (s : Session ω),
      Session.Stored r s (Session.save r options route s) := by
  refine ⟨r.nodup_storedColumns, fun _ => Record.mem_storedColumns, ?_, fun sent hs => ?_,
    fun only t own keys values honly storable reached =>
      save_sends replies own keys values honly storable reached,
    fun reply r' h => ?_, fun route s => Session.stored_of_save r options route s⟩
  · intro name here relation
    rcases Record.mem_storedColumns.1 here with ⟨_, key, _⟩ | ⟨_, field, _⟩
    · exact key
    · exact absurd field (r.schema.not_mem_fieldNames_of_relation relation)
  · obtain ⟨only, honly, _, statement⟩ := insertion_of_save hs
    exact ⟨only, honly, statement⟩
  · have adopted := adopted_of_save h
    refine ⟨Record.sameBesides_of_adoptKeys adopted, ?_⟩
    rintro rows rfl
    exact keys_of_rows adopted

theorem record_stored_ada :
    let sql := "INSERT INTO users (id, name) VALUES (:p_0, :p_1) " ++
      "ON CONFLICT (id) DO UPDATE SET name = EXCLUDED.name RETURNING *"
    let reply : Reply := .ofRows [.ofFields [("id", .int 7)]]
    (observe silent (save (ada users (.int 1)) [] (.given ())) {}).2 =
      [(.given (), ⟨sql, [.int 1, .text "ada"]⟩)] ∧
    ∃ r', (observe (replying reply) (save (ada users .null) [] (.given ())) {}).1 = .ok (reply, r') ∧
      r'.attributes.get? (.text "id") = some (.int 7) ∧ (ada users .null).SameBesides ["id"] r' := by
  intro sql reply
  have columns : (ada users (.int 1)).storedColumns = ["id", "name"] := rfl
  have storable : ∀ name ∈ (ada users (.int 1)).storedColumns,
      Storable ((ada users (.int 1)).valueOf name) := by
    rw [columns]
    simp only [List.forall_mem_cons]
    exact ⟨rfl, rfl, List.forall_mem_nil _⟩
  obtain ⟨_, _, _, _, sends, _⟩ := record_stored silent {} (.given ()) (ada users (.int 1)) []
  obtain ⟨_, _, _, _, _, after, _⟩ :=
    record_stored (replying reply) {} (.given ()) (ada users .null) []
  refine ⟨sends false (.given ()) rfl rfl rfl rfl storable rfl, ada users (.int 7), rfl, ?_, ?_⟩
  · exact (after reply (ada users (.int 7)) rfl).2 _ rfl "id" (List.mem_singleton_self _)
  · exact (after reply (ada users (.int 7)) rfl).1

set_option maxRecDepth 1000 in
/-- A class under the name of the operation that tells the values keeps all of them from being stored. -/
theorem values_hidden :
    let hidden : Record := { ada users (.int 1) with
      attributes := .ofFields [("name", .text "ada"), ("get_values", .callable (.constructor .dict)),
        ("id", .int 1)] }
    Record.build Function.catalogue (user users) (.int 1)
      (.dict [(.text "name", .text "ada"), (.text "get_values", .callable (.constructor .dict))])
      .null false = .ok hidden ∧
    hidden.hasValue "name" ∧
    (observe silent (save hidden [] (.given ())) {}).2 = [(.given (),
      ⟨"INSERT INTO users (id) VALUES (:p_0) ON CONFLICT (id) DO NOTHING RETURNING *", [.int 1]⟩)] :=
  ⟨rfl, rfl, rfl⟩

end Operation

end RecordMapper
