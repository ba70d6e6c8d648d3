import RecordMapper.Value.Membership

/-!
Texts among values. Comparing a text with anything has an answer at once, and the answer is yes for
the same text only. So texts are good names: for fields, columns and parameters.
-/
namespace RecordMapper.Value

def isText (v : Value) : Bool := v.codePoints?.isSome

@[simp] theorem isText_text (s : String) : isText (text s) = true := rfl

@[simp] theorem isText_looseText (ns : List Nat) : isText (looseText ns) = true := rfl

theorem beq_of_equality {v w : Value} {b : Bool} (h : v.equality w = .ok b) : (v == w) = b := by
  rw [beq_eq, same, h]
  cases b <;> rfl

theorem equality_of_isText {k : Value} (hk : k.isText) (v : Value) :
    ∃ b, k.equality v = .ok b ∧ (b = true ↔ k = v) := by
  cases k with
  | text s => cases v <;> simp [equality, equalBy, equalNumbers, number?]
  | looseText ns => cases v <;> simp [equality, equalBy, equalNumbers, number?]
  | _ => simp [isText, codePoints?] at hk

private theorem equality_isText {k : Value} (hk : k.isText) (v : Value) :
    ∃ b, v.equality k = .ok b ∧ (b = true ↔ v = k) := by
  cases k with
  | text s =>
    cases v <;> simp [equality, equalBy, equalRecords, equalNumbers, record?, number?]
  | looseText ns =>
    cases v <;> simp [equality, equalBy, equalRecords, equalNumbers, record?, number?]
  | _ => simp [isText, codePoints?] at hk

theorem text_beq_iff {k : Value} (hk : k.isText) (v : Value) : (k == v) = true ↔ k = v := by
  obtain ⟨b, answer, same⟩ := equality_of_isText hk v
  rw [beq_of_equality answer, same]

theorem beq_text_iff {k : Value} (hk : k.isText) (v : Value) : (v == k) = true ↔ v = k := by
  obtain ⟨b, answer, same⟩ := equality_isText hk v
  rw [beq_of_equality answer, same]

theorem beq_text_comm {k : Value} (hk : k.isText) (v : Value) : (v == k) = (k == v) := by
  rw [Bool.eq_iff_iff, beq_text_iff hk, text_beq_iff hk, eq_comm]

theorem text_equals {k : Value} (hk : k.isText) (v : Value) : k.equals v = .ok (k == v) := by
  obtain ⟨b, answer, _⟩ := equality_of_isText hk v
  rw [beq_of_equality answer, equals, answer]
  rfl

theorem isHashable_of_isText {k : Value} (hk : k.isText) : k.isHashable = true := by
  cases k with
  | text s => rfl
  | looseText ns => rfl
  | _ => simp [isText, codePoints?] at hk

theorem memberOf_dict_of_isText {k : Value} (hk : k.isText) (m : Mapping) :
    k.memberOf m.toValue = .ok (m.get? k).isSome := by
  rw [OrderedMap.toValue, memberOf, if_pos (isHashable_of_isText hk), ← OrderedMap.contains_eq_isSome]
  simp only [isIn, OrderedMap.contains, List.any_map, Function.comp_def]
  congr 2
  funext e
  exact (beq_text_comm hk e.1).symm

end RecordMapper.Value
