import RecordMapper.Proofs.Value.Text
import RecordMapper.Value.Convert

/-!
Maps under names. A name is found by itself alone: what is inserted under other keys does not reach
it, and of maps that are put into one another the last one that has the name counts.
-/
namespace RecordMapper

namespace Value

@[simp] theorem mapping?_toValue (m : Mapping) : m.toValue.mapping? = some m := by
  simp [OrderedMap.toValue, mapping?]

@[simp] theorem toMapping_toValue (m : Mapping) : m.toValue.toMapping = .ok m := by
  change Except.ok (OrderedMap.ofEntries m.entries) = _
  rw [OrderedMap.ofEntries_entries]

theorem toMapping_of_mapping? {v : Value} {m : Mapping} (h : v.mapping? = some m) :
    v.toMapping = .ok m := by
  cases v with
  | dict es => exact congrArg _ (Option.some.inj h)
  | _ => cases h

theorem part_of_get? {m : Mapping} {k v : Value} (h : m.get? k = some v) :
    m.toValue.part k = .ok v := by
  obtain ⟨e, first, value⟩ := Option.map_eq_some_iff.1 h
  rw [OrderedMap.toValue, part, first, ← value]
  rfl

theorem orEmpty_toMapping {v : Value} {m : Mapping} (h : v.toMapping = .ok m) :
    v.orEmpty.toMapping = .ok m := by
  unfold orEmpty
  split
  · exact h
  · rename_i empty
    cases v with
    | text s =>
      obtain rfl : s = "" := by simpa [truthy] using empty
      exact h
    | bytes xs | list xs | tuple xs | set _ xs | dict xs =>
      obtain rfl : xs = [] := by simpa [truthy] using empty
      exact h
    | _ => first | cases h; done | exact absurd rfl empty

end Value

namespace OrderedMap

section

variable {k : Value} (hk : k.isText)
include hk

theorem get?_insert_of_isText (m : Mapping) (k' v : Value) :
    (m.insert k' v).get? k = if k' == k then some v else m.get? k := by
  by_cases h : (k' == k) = true
  · obtain rfl := (Value.beq_text_iff hk k').1 h
    rw [if_pos h, get?_insert_self m v h]
  · rw [if_neg h]
    refine get?_insert_of_ne m v (fun x hx => ?_) (Bool.eq_false_iff.2 h)
    rw [(Value.beq_text_iff hk x).1 hx, ← Value.beq_text_comm hk]
    exact Bool.eq_false_iff.2 h

private theorem find?_of_distinct {e : Value × Value} {es : Entries}
    (distinct : (e :: es).Pairwise fun a b => (a.1 == b.1) = false) (he : e.1 = k) :
    es.find? (fun f => f.1 == k) = none := by
  refine List.find?_eq_none.2 fun f hf => ?_
  rw [Value.beq_text_comm hk, ← he, (List.pairwise_cons.1 distinct).1 f hf]
  simp

theorem get?_insertAll_of_isText (m : Mapping) {es : Entries}
    (distinct : es.Pairwise fun a b => (a.1 == b.1) = false) :
    (m.insertAll es).get? k = ((es.find? fun e => e.1 == k).map (·.2)).or (m.get? k) := by
  induction es generalizing m with
  | nil => rfl
  | cons e es ih =>
    rw [insertAll_cons, ih _ (List.pairwise_cons.1 distinct).2, get?_insert_of_isText hk,
      List.find?_cons]
    by_cases h : (e.1 == k) = true
    · have absent := find?_of_distinct hk distinct ((Value.beq_text_iff hk e.1).1 h)
      simp [h, absent]
    · simp [h]

theorem get?_insertAll_entries (m n : Mapping) :
    (m.insertAll n.entries).get? k = (n.get? k).or (m.get? k) :=
  get?_insertAll_of_isText hk m n.distinct

theorem get?_eq_some_iff {m : Mapping} {v : Value} : m.get? k = some v ↔ (k, v) ∈ m.entries := by
  constructor
  · intro found
    obtain ⟨e, first, rfl⟩ := Option.map_eq_some_iff.1 found
    have same := List.find?_some (p := fun e : Value × Value => e.1 == k) first
    obtain rfl := (Value.beq_text_iff hk e.1).1 same
    exact List.mem_of_find?_eq_some first
  · intro mem
    exact get?_of_mem mem ((Value.text_beq_iff hk k).2 rfl)

theorem get?_eq_none_iff {m : Mapping} : m.get? k = none ↔ k ∉ m.keys := by
  rw [Option.eq_none_iff_forall_not_mem]
  simp [keys, get?_eq_some_iff hk]

end

end OrderedMap

namespace Mapping

def ofNames (f : String → Value) (names : List String) : Mapping :=
  .ofEntries (names.map fun name => (.text name, f name))

variable (f : String → Value)

theorem insert_known {m : Mapping} {name : String} {v : Value} (h : m.get? (.text name) = some v) :
    m.insert (.text name) v = m := by
  have found : m.contains (.text name) = true := by
    rw [OrderedMap.contains_eq_isSome, h]
    rfl
  apply OrderedMap.ext
  rw [OrderedMap.entries_insert_of_contains _ found]
  refine (List.map_congr_left fun e here => ?_).trans (List.map_id _)
  split
  · rename_i same
    have named := (Value.beq_text_iff rfl _).1 same
    have value := OrderedMap.get?_of_mem here ((Value.text_beq_iff (named ▸ rfl) _).2 rfl)
    rw [named, h] at value
    exact Prod.ext rfl (Option.some.inj value)
  · rfl

theorem entries_insertAll_agreeing {m : Mapping}
    (agree : ∀ name v, m.get? (.text name) = some v → v = f name) (names : List String) :
    (m.insertAll (names.map fun n => (.text n, f n))).entries =
      m.entries ++ ((names.filter fun n => !m.contains (.text n)).eraseDups).map
        fun n => (.text n, f n) := by
  induction names generalizing m with
  | nil => simp
  | cons name names ih =>
    rw [List.map_cons, OrderedMap.insertAll_cons]
    cases found : m.get? (.text name) with
    | some v =>
      have known : m.contains (.text name) = true := by rw [OrderedMap.contains_eq_isSome, found]; rfl
      rw [← agree name v found, insert_known found, ih agree]
      simp [known]
    | none =>
      have absent : m.contains (.text name) = false := by rw [OrderedMap.contains_eq_isSome, found]; rfl
      have agree' : ∀ n v, (m.insert (.text name) (f name)).get? (.text n) = some v → v = f n := by
        intro n v hv
        rw [OrderedMap.get?_insert_of_isText rfl, Value.text_beq_text] at hv
        split at hv
        · rename_i same
          rw [← Option.some.inj hv, eq_of_beq same]
        · exact agree n v hv
      have later : (names.filter fun n => !(m.insert (.text name) (f name)).contains (.text n)) =
          (names.filter fun n => !m.contains (.text n)).filter fun n => !n == name := by
        rw [List.filter_filter]
        refine List.filter_congr fun n _ => ?_
        rw [OrderedMap.contains_eq_isSome, OrderedMap.contains_eq_isSome,
          OrderedMap.get?_insert_of_isText rfl, Value.text_beq_text]
        by_cases same : n = name
        · simp [same]
        · simp [same, Ne.symm same]
      rw [ih agree', later, OrderedMap.entries_insert_of_not_contains _ absent,
        List.filter_cons_of_pos (by simp [absent]), List.eraseDups_cons, List.append_assoc]
      rfl

theorem entries_insertAll_names {m : Mapping} {done : List String}
    (hm : m.entries = done.map fun n => (.text n, f n)) (names : List String) :
    (m.insertAll (names.map fun n => (.text n, f n))).entries =
      (done ++ (names.filter (· ∉ done)).eraseDups).map fun n => (.text n, f n) := by
  have agree : ∀ name v, m.get? (.text name) = some v → v = f name := by
    intro name v found
    rw [OrderedMap.get?_eq_some_iff rfl, hm] at found
    obtain ⟨n, _, same⟩ := List.mem_map.1 found
    rw [← (Prod.mk.inj same).2, Value.text.inj (Prod.mk.inj same).1]
  have known (n : String) : m.contains (.text n) = decide (n ∈ done) := by
    rw [OrderedMap.contains, hm]
    rw [Bool.eq_iff_iff]
    simp
  rw [entries_insertAll_agreeing f agree, hm, List.map_append]
  simp only [known, decide_not]

theorem entries_ofNames (names : List String) :
    (ofNames f names).entries = names.eraseDups.map fun n => (.text n, f n) := by
  have all : names.filter (· ∉ ([] : List String)) = names := List.filter_eq_self.2 (by simp)
  have empty : (OrderedMap.empty : Mapping).entries = [].map fun n => (.text n, f n) := rfl
  rw [ofNames, OrderedMap.ofEntries, entries_insertAll_names f empty names, all]
  rfl

theorem get?_ofNames (names : List String) (name : String) :
    (ofNames f names).get? (.text name) = if name ∈ names then some (f name) else none := by
  rw [OrderedMap.get?, entries_ofNames, List.find?_map]
  by_cases h : name ∈ names
  · have found : names.eraseDups.find? (fun n => n == name) = some name := by
      cases first : names.eraseDups.find? fun n => n == name with
      | none =>
        have := List.find?_eq_none.1 first name (List.mem_eraseDups.2 h)
        simp at this
      | some n =>
        have same := List.find?_some first
        simp only [beq_iff_eq] at same
        rw [same]
    simp only [Function.comp_def, Value.text_beq_text, found, if_pos h]
    rfl
  · have absent : names.eraseDups.find? (fun n => n == name) = none := by
      refine List.find?_eq_none.2 fun n hn same => h ?_
      simp only [beq_iff_eq] at same
      exact same ▸ List.mem_eraseDups.1 hn
    simp only [Function.comp_def, Value.text_beq_text, absent, if_neg h]
    rfl

end Mapping

end RecordMapper
