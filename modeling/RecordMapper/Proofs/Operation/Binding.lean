import RecordMapper.Proofs.Operation.Scope
import RecordMapper.Proofs.Operation.Storing
import RecordMapper.Proofs.Record.Origin
import RecordMapper.Proofs.Sql.Nulls

/-!
When something undefined is bound. Of a new record nothing is undefined unless it was given with the
primary keys, and what is bound to store it or to update its row is undefined only if such a field is, or
if a key that the row is looked for by is a collection of undefined members.
-/
namespace RecordMapper

open Sql

namespace Sql

theorem storedForm_eq_undefined {v : Value} : storedForm v = .undefined ↔ v = .undefined := by
  cases v with
  | dict es =>
    unfold storedForm
    dsimp only
    cases Json.render (.dict es) with
    | error e => exact ⟨nofun, nofun⟩
    | ok text => exact ⟨nofun, nofun⟩
  | _ => simp [storedForm]

theorem undefined_mem_operands {v : Value} : .undefined ∈ operands v ↔ .undefined ∈ v.choices := by
  cases v <;> simp [operands, Value.choices]

private theorem boundValues_tuple (values : List Value) : boundValues (Insert.tuple values) = values := by
  unfold Insert.tuple
  rw [List.cons_append, boundValues, boundValues_append, boundValues_separatedBy, boundValues_binds]
  exact List.append_nil values

private theorem boundValues_single (table : String) (cells : List (String × Value)) {conflict : List Piece}
    (words : boundValues conflict = []) :
    boundValues (Insert.single table cells conflict) = cells.map (·.2) := by
  unfold Insert.single
  rw [boundValues_append, boundValues_append, words, boundValues, List.append_nil]
  cases cells with
  | nil => rfl
  | cons cell cells =>
    rw [List.isEmpty_cons, if_neg Bool.false_ne_true, boundValues_tuple]
    simp [boundValues]

theorem Update.values_of_build {table : String} {values filter : Value} {returning : Bool} {q : Update}
    (h : build table values filter returning = .ok q) : values.toMapping = .ok q.values := by
  unfold build at h
  split at h
  · obtain ⟨set, hset, h⟩ := bind_eq_ok.1 h
    obtain ⟨m, _, h⟩ := bind_eq_ok.1 h
    obtain rfl := pure_eq_ok.1 h
    exact hset
  · cases h

end Sql

/-- A field that is no primary key is given with the primary keys, and is undefined. -/
def Schema.GivesUndefined (s : Schema) (primary : Value) : Prop :=
  ∃ name ∈ s.fieldNames, name ∉ s.primary ∧ (.text name, .undefined) ∈ (s.givenKeys primary).entries

namespace Record

variable {fns : Functions} {m : ModelClass} {primary data validate : Value} {r : Record}

theorem valueOf_eq_undefined {name : String} :
    r.valueOf name = .undefined ↔ (.text name, .undefined) ∈ r.attributes.entries := by
  rw [← OrderedMap.get?_eq_some_iff rfl, valueOf]
  cases r.attributes.get? (.text name) <;> simp

theorem valueOf_undefined_iff (h : build fns m primary data validate true = .ok r) {name : String} :
    r.valueOf name = .undefined ↔
      (.text name, .undefined) ∈ (r.schema.givenKeys primary).entries ∧ name ∉ r.schema.primary := by
  rw [valueOf_eq_undefined, undefined_mem_attributes h]
  simp only [ne_eq, Value.text.injEq]
  constructor
  · rintro ⟨given, other⟩
    exact ⟨given, fun here => other name here rfl⟩
  · rintro ⟨given, other⟩
    refine ⟨given, ?_⟩
    rintro key here rfl
    exact other here

private theorem boundValues_insertion (only : Bool) :
    boundValues (r.insertion only) = r.storedColumns.map fun name => storedForm (r.valueOf name) := by
  have words : boundValues (if only then [] else Insert.upserting r.storedColumns r.schema.primary) = [] := by
    cases only <;> rfl
  unfold insertion
  rw [boundValues_single _ _ words, List.map_map]
  rfl

private theorem empty_of_requirePrimary {keys : Value} {filter : Mapping} (hidden : ¬r.AnswersForKeys)
    (h : r.requirePrimary = .ok keys) (hf : keys.orEmpty.toMapping = .ok filter) : filter = .empty := by
  rcases ask_eq_ok h with ⟨required, own⟩ | ⟨_, empty⟩
  · obtain ⟨told, htold, own⟩ := bind_eq_ok.1 own
    rcases askKeys_eq_ok htold with ⟨free, _⟩ | ⟨_, rfl⟩
    · refine absurd ⟨?_, ?_⟩ hidden
      · exact fun byClass => hiding?_ne_none byClass free
      · exact fun byClass => hiding?_ne_none byClass required
    · obtain rfl := pure_eq_ok.1 own
      exact (Except.ok.inj hf).symm
  · exact empty filter hf

end Record

namespace Operation

variable {κ : Type} {fns : Functions} {m : ModelClass} {primary data validate : Value} {r : Record}
  {replies : Replies κ} {c : Catalog} {route : Route κ} {sent : Target κ × Statement}

private theorem query_of_update (h : sent ∈ (observe replies (update r route) c).2) :
    ∃ q : Update, q.render = .ok sent.2 ∧
      (q.values.entries = r.toldFields.map fun name => (.text name, r.valueOf name)) ∧
      (r.AnswersForKeys → q.filter = r.primary) ∧ (¬r.AnswersForKeys → q.filter = .empty) := by
  obtain ⟨request, hr, rfl⟩ := mem_observe h
  obtain ⟨_, keys, values, q, s, hkeys, hvalues, hq, hs, requests⟩ := update_eq_ok hr
  obtain ⟨_, filter, _⟩ := Update.build_eq_ok hq
  refine ⟨q, ?_, Record.entries_askValues hvalues (Update.values_of_build hq), ?_, ?_⟩
  · rw [hs, requests.statement]
  · intro answers
    rcases Record.requirePrimary_eq_ok hkeys with ⟨rfl, _⟩ | ⟨hidden, _⟩
    · have own := Value.orEmpty_toMapping (Value.toMapping_toValue r.primary)
      exact Except.ok.inj (filter.symm.trans own)
    · exact absurd answers hidden
  · intro hidden
    exact Record.empty_of_requirePrimary hidden hkeys filter

section

variable (h : Record.build fns m primary data validate true = .ok r)
include h

theorem undefined_mem_told : (∃ name ∈ r.toldFields, r.valueOf name = .undefined) ↔
    r.hiding? .values = none ∧ r.schema.GivesUndefined primary := by
  constructor
  · rintro ⟨name, told, undefined⟩
    obtain ⟨free, field, _⟩ := Record.mem_toldFields.1 told
    obtain ⟨given, other⟩ := (Record.valueOf_undefined_iff h).1 undefined
    exact ⟨free, name, field, other, given⟩
  · rintro ⟨free, name, field, other, given⟩
    have undefined := (Record.valueOf_undefined_iff h).2 ⟨given, other⟩
    have found := (OrderedMap.get?_eq_some_iff rfl).2 (Record.valueOf_eq_undefined.1 undefined)
    have there : r.hasValue name := by
      rw [Record.hasValue, found]
      rfl
    exact ⟨name, Record.mem_toldFields.2 ⟨free, field, there⟩, undefined⟩

theorem undefined_mem_stored : (∃ name ∈ r.storedColumns, r.valueOf name = .undefined) ↔
    r.hiding? .values = none ∧ r.schema.GivesUndefined primary := by
  rw [← undefined_mem_told h]
  constructor
  · rintro ⟨name, stored, undefined⟩
    rcases Record.mem_storedColumns.1 stored with ⟨_, key, _⟩ | told
    · exact absurd key ((Record.valueOf_undefined_iff h).1 undefined).2
    · exact ⟨name, Record.mem_toldFields.2 told, undefined⟩
  · rintro ⟨name, told, undefined⟩
    exact ⟨name, Record.mem_storedColumns.2 (.inr (Record.mem_toldFields.1 told)), undefined⟩

theorem undefined_bound_by_save {options : List (String × Value)}
    (hs : sent ∈ (observe replies (save r options route) c).2) :
    .undefined ∈ sent.2.values ↔ r.hiding? .values = none ∧ r.schema.GivesUndefined primary := by
  obtain ⟨only, _, _, statement⟩ := insertion_of_save hs
  rw [statement]
  change .undefined ∈ boundValues (r.insertion only) ↔ _
  rw [Record.boundValues_insertion, List.mem_map, ← undefined_mem_stored h]
  simp only [storedForm_eq_undefined]

theorem undefined_bound_by_update (hs : sent ∈ (observe replies (update r route) c).2) :
    .undefined ∈ sent.2.values ↔ (r.hiding? .values = none ∧ r.schema.GivesUndefined primary) ∨
      (r.AnswersForKeys ∧ ∃ key ∈ r.schema.primary, .undefined ∈ (r.valueOf key).choices) := by
  obtain ⟨q, rendered, values, own, hidden⟩ := query_of_update hs
  have bound : sent.2.values = q.values.values.map storedForm ++ compared q.filter := by
    have all := values_of_render (c := .update q) rendered
    simpa [Command.assigned, Command.filters] using all
  have set : .undefined ∈ q.values.values.map storedForm ↔
      r.hiding? .values = none ∧ r.schema.GivesUndefined primary := by
    rw [← undefined_mem_told h, OrderedMap.values, values]
    simp [storedForm_eq_undefined]
  have asked : .undefined ∈ compared q.filter ↔
      r.AnswersForKeys ∧ ∃ key ∈ r.schema.primary, .undefined ∈ (r.valueOf key).choices := by
    by_cases answers : r.AnswersForKeys
    · rw [own answers, compared, Record.entries_primary, Record.keyEntries, and_iff_right answers]
      simp [undefined_mem_operands, Record.mem_keyNames]
    · rw [hidden answers]
      apply iff_of_false
      · exact List.not_mem_nil
      · intro asked
        exact answers asked.1
  rw [bound, List.mem_append, set, asked]

end

private theorem clean_of_single (h : Record.build fns m primary data validate true = .ok r)
    (single : ∀ es, primary ≠ .dict es) :
    ∀ e ∈ r.attributes.entries, r.schema.admits e.1 ∧ e.2 ≠ .undefined := by
  have key : ∀ e ∈ (r.schema.givenKeys primary).entries, e.1 = .text r.schema.key := by
    intro e given
    cases primary with
    | null => nomatch given
    | dict es => exact absurd rfl (single es)
    | _ =>
      obtain rfl := List.mem_singleton.1 given
      rfl
  have isKey : r.schema.key ∈ r.schema.primary := List.head_mem r.schema.primary_ne
  rintro ⟨k, v⟩ mem
  constructor
  · by_contra undeclared
    have given := (Record.undeclared_mem_attributes h (Bool.not_eq_true _ ▸ undeclared)).1 mem
    exact undeclared (Schema.admits_iff.2 ⟨_, key _ given, .inr isKey⟩)
  · rintro rfl
    obtain ⟨given, other⟩ := (Record.undefined_mem_attributes h).1 mem
    exact other _ isKey (key _ given)

/-- What is undeclared or undefined in a new record whose data has been stripped. All primary keys are
there and defined. Whatever is undeclared was given with them, and so was what is undefined, under another
name; if they are given by one value then there is neither. So to store the record or to update its row
binds nothing undefined unless such a field was given, or a key is a collection of undefined members. -/
theorem undefined_only_from_keys (h : Record.build fns m primary data validate true = .ok r) :
    (∀ key ∈ r.schema.primary, ∃ v, r.attributes.get? (.text key) = some v ∧ v ≠ .undefined) ∧
    (∀ e : Value × Value, r.schema.admits e.1 = false →
      (e ∈ r.attributes.entries ↔ e ∈ (r.schema.givenKeys primary).entries)) ∧
    (∀ k, (k, .undefined) ∈ r.attributes.entries ↔
      (k, .undefined) ∈ (r.schema.givenKeys primary).entries ∧ ∀ key ∈ r.schema.primary, k ≠ .text key) ∧
    ((∀ es, primary ≠ .dict es) →
      ∀ e ∈ r.attributes.entries, r.schema.admits e.1 ∧ e.2 ≠ .undefined) ∧
    ∀ {κ : Type} (replies : Replies κ) (c : Catalog) (route : Route κ),
      (∀ options, ∀ sent ∈ (observe replies (save r options route) c).2,
        (.undefined ∈ sent.2.values ↔ r.hiding? .values = none ∧ r.schema.GivesUndefined primary)) ∧
      ∀ sent ∈ (observe replies (update r route) c).2,
        (.undefined ∈ sent.2.values ↔ (r.hiding? .values = none ∧ r.schema.GivesUndefined primary) ∨
          (r.AnswersForKeys ∧ ∃ key ∈ r.schema.primary, .undefined ∈ (r.valueOf key).choices)) := by
  refine ⟨?_, fun e => Record.undeclared_mem_attributes h, fun k => Record.undefined_mem_attributes h,
    clean_of_single h, ?_⟩
  · intro key here
    obtain ⟨v, found⟩ := Option.isSome_iff_exists.1 (Record.hasValue_of_build h here)
    refine ⟨v, found, ?_⟩
    rintro rfl
    have mem := (OrderedMap.get?_eq_some_iff rfl).1 found
    exact ((Record.undefined_mem_attributes h).1 mem).2 key here rfl
  · intro κ replies c route
    constructor
    · intro options sent hs
      exact undefined_bound_by_save h hs
    · intro sent hs
      exact undefined_bound_by_update h hs

def userOf (attributes : List (String × Value)) : Record where
  model := user users
  schema := users
  attributes := .ofFields attributes

def unnamed : Record := userOf [("name", .null), ("id", .int 1)]

def undefinedUser : Record := userOf [("id", .int 1), ("name", .undefined), ("ghost", .int 2)]

def insertUser : String := "INSERT INTO users (id, name) VALUES (:p_0, :p_1) " ++
  "ON CONFLICT (id) DO UPDATE SET name = EXCLUDED.name RETURNING *"

theorem save_unnamed :
    (observe silent (save unnamed [] (.given ())) {}).2 = [(.given (), ⟨insertUser, [.int 1, .null]⟩)] := by
  have storable : ∀ name ∈ ["id", "name"], Storable (unnamed.valueOf name) := by
    simp only [List.forall_mem_cons]
    exact ⟨rfl, rfl, List.forall_mem_nil _⟩
  rw [save_sends (r := unnamed) silent rfl rfl rfl rfl storable rfl]
  rfl

theorem undefined_only_from_keys_user :
    let data := .dict [(.text "name", .undefined), (.text "ghost", .int 2)]
    Record.build Function.catalogue (user users) (.int 1) data .null true = .ok unnamed ∧
      (∀ e ∈ unnamed.attributes.entries, unnamed.schema.admits e.1 ∧ e.2 ≠ .undefined) ∧
      (observe silent (save unnamed [] (.given ())) {}).2 =
        [(.given (), ⟨insertUser, [.int 1, .null]⟩)] ∧
      .undefined ∉ [Value.int 1, .null] := by
  intro data
  have made : Record.build Function.catalogue (user users) (.int 1) data .null true = .ok unnamed := rfl
  obtain ⟨_, _, _, clean, binds⟩ := undefined_only_from_keys made
  have defined : ¬unnamed.schema.GivesUndefined (.int 1) := by
    rintro ⟨name, _, _, given⟩
    obtain ⟨_, undefined⟩ := Prod.mk.inj (List.mem_singleton.1 given)
    cases undefined
  refine ⟨made, clean nofun, save_unnamed, fun bound => ?_⟩
  obtain ⟨saves, _⟩ := binds silent {} (.given ())
  specialize saves []
  rw [save_unnamed, List.forall_mem_singleton] at saves
  exact defined (saves.1 bound).2

/-- A map of primary keys brings in a name that is not declared, and a field that is undefined, which is
then stored. -/
theorem undefined_stored :
    let keys := .dict [(.text "id", .int 1), (.text "name", .undefined), (.text "ghost", .int 2)]
    Record.build Function.catalogue (user users) keys (.dict []) .null true = .ok undefinedUser ∧
      users.admits (.text "ghost") = false ∧
      undefinedUser.attributes.get? (.text "ghost") = some (.int 2) ∧
      undefinedUser.attributes.get? (.text "name") = some .undefined ∧
      (observe silent (save undefinedUser [] (.given ())) {}).2 =
        [(.given (), ⟨insertUser, [.int 1, .undefined]⟩)] := by
  have storable : ∀ name ∈ ["id", "name"], Storable (undefinedUser.valueOf name) := by
    simp only [List.forall_mem_cons]
    exact ⟨rfl, rfl, List.forall_mem_nil _⟩
  refine ⟨rfl, rfl, rfl, rfl, ?_⟩
  rw [save_sends (r := undefinedUser) silent rfl rfl rfl rfl storable rfl]
  rfl

end Operation

end RecordMapper
