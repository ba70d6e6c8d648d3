import RecordMapper.Proofs.Operation.Storing

/-!
Primary keys without a value. A record is stored with its primary keys as far as they have a value, and
over them with the values of all declared fields, also of those that are `null`. A key without a value is
so left to the database unless it is a declared field too.
-/
namespace RecordMapper

namespace Operation

/-- A new record is stored by the insertion of its columns, with the value of each. A primary key without a
value is one of them exactly if it is a declared field, too, and the record tells its values. -/
theorem unset_keys_of_save {κ : Type} {fns : Functions} {m : ModelClass} {primary data validate : Value}
    {strip : Bool} {r : Record} (h : Record.build fns m primary data validate strip = .ok r)
    (replies : Replies κ) (c : Catalog) (options : List (String × Value)) (route : Route κ) :
    (∀ sent ∈ (observe replies (save r options route) c).2,
      ∃ only, insertOnly options = .ok only ∧ sent.2 = .ofPieces (r.insertion only)) ∧
    ∀ key ∈ r.unsetKeys,
      key ∈ r.storedColumns ↔ key ∈ r.schema.fieldNames ∧ r.hiding? .values = none := by
  refine ⟨fun sent hs => ?_, fun key unset => ?_⟩
  · obtain ⟨only, honly, _, statement⟩ := insertion_of_save hs
    exact ⟨only, honly, statement⟩
  · obtain ⟨isKey, null⟩ := Record.mem_unsetKeys.1 unset
    have there := Record.hasValue_of_build h isKey
    rw [Record.mem_storedColumns]
    simp [null, there, and_comm]

def numberedUsers : Schema :=
  { users with
    fields := .ofEntries [("id", .empty), ("name", .empty)]
    types_known := rfl
    disjoint := clashes_eq_nil.2 nofun }

theorem unset_keys_of_save_ada :
    let r := ada users .null
    let sql := "INSERT INTO users (name) VALUES (:p_0) " ++
      "ON CONFLICT (id) DO UPDATE SET name = EXCLUDED.name RETURNING *"
    Record.build Function.catalogue (user users) .null (.dict [(.text "name", .text "ada")]) .null
      true = .ok r ∧
    (observe silent (save r [] (.given ())) {}).2 = [(.given (), ⟨sql, [.text "ada"]⟩)] ∧
    ⟨sql, [.text "ada"]⟩ = Sql.Statement.ofPieces (r.insertion false) ∧ "id" ∉ r.storedColumns := by
  intro r sql
  have built : Record.build Function.catalogue (user users) .null
      (.dict [(.text "name", .text "ada")]) .null true = .ok r := rfl
  have sent : (observe silent (save r [] (.given ())) {}).2 = [(.given (), ⟨sql, [.text "ada"]⟩)] := rfl
  obtain ⟨stored, unset⟩ := unset_keys_of_save built silent {} [] (.given ())
  obtain ⟨only, plain, statement⟩ := stored _ (by rw [sent]; exact List.mem_singleton_self _)
  obtain rfl := Except.ok.inj plain
  refine ⟨built, sent, statement, ?_⟩
  rw [unset "id" (by decide)]
  decide

set_option maxRecDepth 1000 in
/-- A number that is not known yet is stored as `null` if it is a declared field. -/
theorem unset_key_stored :
    let sql := "INSERT INTO users (id, name) VALUES (:p_0, :p_1) " ++
      "ON CONFLICT (id) DO UPDATE SET name = EXCLUDED.name RETURNING *"
    Record.build Function.catalogue (user numberedUsers) .null (.dict [(.text "name", .text "ada")])
      .null true = .ok (ada numberedUsers .null) ∧
    (ada numberedUsers .null).unsetKeys = ["id"] ∧
    (observe silent (save (ada numberedUsers .null) [] (.given ())) {}).2 =
      [(.given (), ⟨sql, [.null, .text "ada"]⟩)] :=
  ⟨rfl, rfl, rfl⟩

end Operation

end RecordMapper
