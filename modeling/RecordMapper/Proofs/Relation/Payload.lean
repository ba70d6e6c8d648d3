import RecordMapper.Function.Catalogue
import RecordMapper.Proofs.Json.Document
import RecordMapper.Proofs.Value.Mapping
import RecordMapper.Relation.Payload
import RecordMapper.Sql.Insert

/-!
Payloads in rows. A row is decoded column by column, and only the columns of relations change. A payload
that comes as JSON, as a text or as its bytes, is decoded to the same as one that comes as a list or a map
itself, so that maps that are stored come back as they were.
-/
namespace RecordMapper.Relation

variable {fns : Functions} {name : String} {r : Relation} {joined : List (String × Relation)}

/-! Columns. -/

/-- What decoding makes of a column: relations decode the columns of their names. -/
def DecodesTo (fns : Functions) (joined : List (String × Relation)) (e e' : Value × Value) : Prop :=
  e'.1 = e.1 ∧
    ((∃ j ∈ joined, e.1 = .text j.1 ∧ j.2.payload fns e.2 = .ok e'.2) ∨
      (∀ j ∈ joined, e.1 ≠ .text j.1) ∧ e'.2 = e.2)

section

variable {j : String × Relation} {e next e' : Value × Value}

theorem decodesTo_of_other (other : ∀ j ∈ joined, e.1 ≠ .text j.1) :
    DecodesTo fns joined e e' ↔ e' = e := by
  have none : ¬∃ j ∈ joined, e.1 = .text j.1 ∧ j.2.payload fns e.2 = .ok e'.2 :=
    fun ⟨j, here, named, _⟩ => other j here named
  rw [DecodesTo, or_iff_right none, Prod.ext_iff]
  exact and_congr_right fun _ => and_iff_right other

theorem decodesTo_nil : DecodesTo fns [] e e' ↔ e' = e :=
  decodesTo_of_other fun _ here => nomatch here

theorem ne_of_fresh (fresh : j.1 ∉ joined.map (·.1)) {k : Value} (named : k = .text j.1) :
    ∀ i ∈ joined, k ≠ .text i.1 := by
  intro i here same
  have twice : j.1 = i.1 := Value.text.inj (named.symm.trans same)
  exact fresh (twice ▸ List.mem_map_of_mem here)

theorem decodesTo_of_name (fresh : j.1 ∉ joined.map (·.1)) (named : e.1 = .text j.1) :
    DecodesTo fns (j :: joined) e e' ↔ e'.1 = e.1 ∧ j.2.payload fns e.2 = .ok e'.2 := by
  refine and_congr_right fun _ => ⟨?_, fun h => .inl ⟨j, List.mem_cons_self .., named, h⟩⟩
  rintro (⟨i, here, same, h⟩ | ⟨other, _⟩)
  · rcases List.mem_cons.1 here with rfl | here
    · exact h
    · exact (ne_of_fresh fresh named i here same).elim
  · exact (other j (List.mem_cons_self ..) named).elim

theorem decodesTo_cons (fresh : j.1 ∉ joined.map (·.1)) (first : DecodesTo fns [j] e next) :
    DecodesTo fns joined next e' ↔ DecodesTo fns (j :: joined) e e' := by
  by_cases named : e.1 = .text j.1
  · obtain ⟨key, payload⟩ := (decodesTo_of_name List.not_mem_nil named).1 first
    rw [decodesTo_of_other (key ▸ ne_of_fresh fresh named), decodesTo_of_name fresh named,
      Prod.ext_iff, key, payload, Except.ok.injEq, eq_comm (a := e'.2)]
  · obtain rfl := (decodesTo_of_other (by simpa using named)).1 first
    simp [DecodesTo, named]

end

/-! Rows. -/

theorem decodesTo_of_decodeRow {row row' : Mapping} (h : r.decodeRow fns name row = .ok row') :
    List.Forall₂ (DecodesTo fns [(name, r)]) row.entries row'.entries := by
  unfold decodeRow at h
  split at h
  · rename_i absent
    obtain rfl := pure_eq_ok.1 h
    refine List.forall₂_same.2 fun e here => (decodesTo_of_other ?_).2 rfl
    rintro _ one same
    obtain rfl := List.mem_singleton.1 one
    exact (OrderedMap.get?_eq_none_iff rfl).1 absent (same ▸ List.mem_map_of_mem here)
  · rename_i column found
    obtain ⟨payload, hpayload, h⟩ := bind_eq_ok.1 h
    obtain rfl := pure_eq_ok.1 h
    have known : row.contains (.text name) = true := by
      rw [OrderedMap.contains_eq_isSome, found]
      rfl
    rw [OrderedMap.entries_insert_of_contains _ known, List.forall₂_map_right_iff, List.forall₂_same]
    intro e here
    by_cases named : e.1 = .text name
    · have value : e.2 = column := by
        have again := OrderedMap.get?_of_mem here ((Value.text_beq_iff (named ▸ rfl) _).2 rfl)
        rw [named, found] at again
        exact (Option.some.inj again).symm
      rw [if_pos ((Value.beq_text_iff rfl _).2 named), decodesTo_of_name List.not_mem_nil named, value]
      exact ⟨rfl, hpayload⟩
    · rw [if_neg (mt (Value.beq_text_iff rfl _).1 named)]
      exact (decodesTo_of_other (by simpa using named)).2 rfl

private theorem exists_decodeRow {row : Mapping}
    (h : ∀ e ∈ row.entries, e.1 = .text name → ∃ payload, r.payload fns e.2 = .ok payload) :
    ∃ row', r.decodeRow fns name row = .ok row' := by
  unfold decodeRow
  split
  · exact ⟨row, rfl⟩
  · rename_i column found
    obtain ⟨payload, hpayload⟩ := h _ ((OrderedMap.get?_eq_some_iff rfl).1 found) rfl
    rw [hpayload]
    exact ⟨_, rfl⟩

theorem decodeRows_eq_ok (distinct : (joined.map (·.1)).Nodup) {row row' : Mapping} :
    joined.foldlM (fun row j => j.2.decodeRow fns j.1 row) row = .ok row' ↔
      List.Forall₂ (DecodesTo fns joined) row.entries row'.entries := by
  induction joined generalizing row with
  | nil =>
    have same : List.Forall₂ (DecodesTo fns []) row.entries row'.entries ↔ row.entries = row'.entries := by
      rw [← List.forall₂_eq_eq_eq]
      exact ⟨fun h => h.imp fun _ _ d => (decodesTo_nil.1 d).symm,
        fun h => h.imp fun _ _ d => decodesTo_nil.2 d.symm⟩
    rw [List.foldlM_nil, pure_eq_ok, same, OrderedMap.ext_iff]
  | cons j joined ih =>
    rw [List.map_cons, List.nodup_cons] at distinct
    rw [List.foldlM_cons, bind_eq_ok]
    simp only [ih distinct.2]
    constructor
    · rintro ⟨next, hnext, later⟩
      exact forall₂_of_common (decodesTo_of_decodeRow hnext).flip later fun _ _ _ first second =>
        (decodesTo_cons distinct.1 first).1 second
    · intro all
      -- The first relation can be decoded by itself, as the others leave its column alone.
      have there : ∃ next, j.2.decodeRow fns j.1 row = .ok next := by
        refine exists_decodeRow fun e here named => ?_
        obtain ⟨e', decoded⟩ := exists_forall₂_iff.1 ⟨_, all⟩ e here
        exact ⟨_, ((decodesTo_of_name distinct.1 named).1 decoded).2⟩
      obtain ⟨next, hnext⟩ := there
      exact ⟨next, hnext, forall₂_of_common (decodesTo_of_decodeRow hnext) all fun _ _ _ first second =>
        (decodesTo_cons distinct.1 first).2 second⟩

theorem decode_toValue (row : Mapping) :
    r.decode fns name row.toValue = (r.decodeRow fns name row).map OrderedMap.toValue := by
  rw [decode, Value.mapping?_toValue]

theorem decodes_toValue (row : Mapping) :
    joined.foldlM (fun (row : Value) (j : String × Relation) => j.2.decode fns j.1 row) row.toValue =
      (joined.foldlM (fun (row : Mapping) (j : String × Relation) => j.2.decodeRow fns j.1 row) row).map
        OrderedMap.toValue := by
  induction joined generalizing row with
  | nil => rfl
  | cons j joined ih =>
    rw [List.foldlM_cons, List.foldlM_cons, decode_toValue]
    cases j.2.decodeRow fns j.1 row with
    | error e => rfl
    | ok next => exact ih next

/-! Payloads in JSON. -/

/-- The column counts, not what it was before. -/
theorem decode_insert (row : Mapping) (v : Value) :
    r.decode fns name (row.insert (.text name) v).toValue =
      (r.payload fns v).map fun payload => (row.insert (.text name) payload).toValue := by
  have itself : (Value.text name == Value.text name) = true := (Value.text_beq_iff rfl _).2 rfl
  rw [decode_toValue, decodeRow, OrderedMap.get?_insert_self row v itself]
  dsimp only
  cases r.payload fns v with
  | error e => rfl
  | ok payload =>
    exact congrArg (Except.ok ∘ OrderedMap.toValue) (OrderedMap.insert_insert row v payload itself)

end RecordMapper.Relation

namespace RecordMapper

/-- Lists and maps that JSON has texts for. -/
structure Value.IsJsonContainer (v : Value) : Prop where
  json : v.IsJson
  container : (∃ xs, v = .list xs) ∨ ∃ es, v = .dict es

namespace Relation

variable {fns : Functions} {name : String} {r : Relation} {j : Value}

theorem parsePayload_container (h : j.IsJsonContainer) : parsePayload j = .ok j := by
  rcases h.container with ⟨xs, rfl⟩ | ⟨es, rfl⟩ <;> rfl

private theorem payload_of_render (fns : Functions) (r : Relation) (h : j.IsJsonContainer) {s : String}
    (rendered : Json.render j = .ok s) :
    r.payload fns (.text s) = r.payload fns j ∧
      r.payload fns (.bytes (Text.toUtf8 s)) = r.payload fns j := by
  obtain ⟨text, bytes⟩ := Json.parse_render h.json rendered
  have asText : parsePayload (.text s) = .ok j := text
  have asBytes : parsePayload (.bytes (Text.toUtf8 s)) = .ok j := bytes
  have itself := parsePayload_container h
  constructor
  · rw [payload, payload, asText, itself]
  · rw [payload, payload, asBytes, itself]

theorem payload_container (h : j.IsJsonContainer) (plain : r.transform = none) :
    r.payload fns j = .ok j := by
  have filled : fillPayload r.kind j = j := by
    rcases h.container with ⟨xs, rfl⟩ | ⟨es, rfl⟩ <;> cases r.kind <;> rfl
  rw [payload, parsePayload_container h, plain]
  exact congrArg Except.ok filled

/-- What becomes of a list or a map as the payload of a row, if it is rendered as a text. -/
structure Delivered (fns : Functions) (name : String) (r : Relation) (row : Mapping) (j : Value)
    (s : String) : Prop where
  text : r.decode fns name (row.insert (.text name) (.text s)).toValue =
    r.decode fns name (row.insert (.text name) j).toValue
  bytes : r.decode fns name (row.insert (.text name) (.bytes (Text.toUtf8 s))).toValue =
    r.decode fns name (row.insert (.text name) j).toValue
  /-- The row keeps its columns, and the values of all but one. -/
  others : ∀ row', r.decode fns name (row.insert (.text name) j).toValue = .ok row' →
    ∃ decoded : Mapping, row' = decoded.toValue ∧
      List.Forall₂ (fun e e' => e'.1 = e.1 ∧ (e.1 ≠ .text name → e'.2 = e.2)) row.entries decoded.entries
  /-- Without a function that changes it, what was rendered is back in the row. -/
  restored : r.transform = none →
    r.decode fns name (row.insert (.text name) (.text s)).toValue =
      .ok (row.insert (.text name) j).toValue
  /-- Maps are stored as the text they are rendered as. -/
  stored : ∀ es, j = .dict es → Sql.stored j = .ok (.text s)

/-- A list or a map is rendered unless a number in it is too long. As the payload of a row it makes no
difference whether it is there as it is, as the text, or as the bytes of the text. -/
theorem delivered_of_render (fns : Functions) (r : Relation) {name : String} {row : Mapping}
    (fetched : row.contains (.text name) = true) (h : j.IsJsonContainer) :
    ((∃ s, Json.render j = .ok s) ↔ ∀ n, Value.int n ∈ j.inner → Number.isOverlong n = false) ∧
      ∀ s, Json.render j = .ok s → Delivered fns name r row j s := by
  refine ⟨Json.render_isOk_iff h.json, fun s rendered => ?_⟩
  obtain ⟨text, bytes⟩ := payload_of_render fns r h rendered
  refine ⟨?_, ?_, fun row' decoded => ?_, fun plain => ?_, ?_⟩
  · rw [decode_insert, decode_insert, text]
  · rw [decode_insert, decode_insert, bytes]
  · rw [decode_insert] at decoded
    obtain ⟨payload, _, rfl⟩ := map_eq_ok.1 decoded
    refine ⟨_, rfl, ?_⟩
    rw [OrderedMap.entries_insert_of_contains _ fetched, List.forall₂_map_right_iff, List.forall₂_same]
    intro e _
    split
    · rename_i same
      exact ⟨rfl, fun other => absurd ((Value.beq_text_iff rfl _).1 same) other⟩
    · exact ⟨rfl, fun _ => rfl⟩
  · rw [decode_insert, text, payload_container h plain]
    rfl
  · rintro es rfl
    rw [Sql.stored, rendered]
    rfl

theorem delivered_of_render_nested :
    let r : Relation :=
      { kind := .hasMany, model := "User", localColumn := "id", foreignColumn := "id"
        columns := none, transform := none }
    let row : Mapping := .ofFields [("friends", .null), ("id", .int 5)]
    let j : Value := .dict [(.text "né", .list [.int (-7), .null, .text "😀\n"])]
    let s := "\x7b\"n\\u00e9\": [-7, null, \"\\ud83d\\ude00\\n\"]\x7d"
    row.contains (.text "friends") = true ∧ j.IsJsonContainer ∧ Json.render j = .ok s ∧
      Delivered Function.catalogue "friends" r row j s ∧
      r.decode Function.catalogue "friends" (row.insert (.text "friends") (.text s)).toValue =
        .ok (.dict [(.text "friends", j), (.text "id", .int 5)]) := by
  intro r row j s
  have fetched : row.contains (.text "friends") = true := rfl
  have json : j.IsJsonContainer := by
    refine ⟨.dict (by simp) (List.pairwise_singleton ..) ?_, .inr ⟨_, rfl⟩⟩
    simp only [List.mem_singleton, forall_eq]
    refine .list ?_
    simp only [List.mem_cons, List.not_mem_nil, or_false, forall_eq_or_imp, forall_eq]
    exact ⟨.int _, .null, .text _⟩
  have seven : Json.writeInteger (-7) = .ok "-7".toList := by
    have short : Number.isOverlong (-7) = false := by decide +kernel
    rw [Json.writeInteger, short]
    rfl
  have rendered : Json.render j = .ok s := by
    simp only [j, Json.render, Json.write, Json.writeMembers, Json.writeItems, seven]
    rfl
  have delivered := (delivered_of_render Function.catalogue r fetched json).2 s rendered
  exact ⟨fetched, json, rendered, delivered, delivered.restored rfl⟩

end Relation

end RecordMapper
