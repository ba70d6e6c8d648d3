import RecordMapper.Proofs.Json.Quoted

/-!
Documents of printable ASCII. They are read in the same way as texts and as bytes: no byte of them is zero
and none starts a mark, so that they are taken for UTF-8, where each byte is a character.
-/
namespace RecordMapper.Json

def byteOf (c : Char) : UInt8 := UInt8.ofNat c.toNat

theorem IsPlain.toNat_byteOf {c : Char} (h : IsPlain c) : (byteOf c).toNat = c.toNat :=
  UInt8.toNat_ofNat_of_lt' (Nat.lt_of_le_of_lt h.2 (by decide))

private theorem toUtf8_plain {t : List Char} (h : ∀ c ∈ t, IsPlain c) :
    Text.toUtf8 (String.ofList t) = t.map byteOf := by
  have single : ∀ c ∈ t, String.utf8EncodeChar c = [byteOf c] := by
    intro c here
    exact if_pos (Nat.le_trans (h c here).2 (by decide))
  rw [Text.toUtf8, String.toList_ofList, List.flatMap_congr single, List.map_eq_flatMap]

private theorem utf8CodePoints?_plain {t : List Char} (h : ∀ c ∈ t, IsPlain c) :
    Text.utf8CodePoints? (t.map byteOf) = some (t.map Char.toNat) := by
  induction t with
  | nil => rfl
  | cons c t ih =>
    rw [List.forall_mem_cons] at h
    have low : byteOf c < 0x80 := by
      rw [UInt8.lt_iff_toNat_lt, h.1.toNat_byteOf]
      exact Nat.lt_of_le_of_lt h.1.2 (by decide)
    rw [List.map_cons]
    unfold Text.utf8CodePoints?
    rw [if_pos low, ih h.2, h.1.toNat_byteOf]
    rfl

private theorem detect_plain {bs : List UInt8} (h : ∀ b ∈ bs, 0 < b ∧ b < 0x80) :
    Text.Encoding.detect bs = (.utf8, bs) := by
  have nonzero {b : UInt8} (here : b ∈ bs) : b ≠ 0 := by
    rintro rfl
    exact UInt8.lt_irrefl 0 (h 0 here).1
  have unmarked : Text.Encoding.marks.find? (fun m => m.1.isPrefixOf bs) = none := by
    refine List.find?_eq_none.2 fun m known start => ?_
    have inside := (List.isPrefixOf_iff_prefix.1 start).subset
    have high {b : UInt8} (here : b ∈ m.1) (big : ¬b < 0x80) : False := big (h b (inside here)).2
    simp only [Text.Encoding.marks, List.mem_cons, List.not_mem_nil, or_false] at known
    rcases known with rfl | rfl | rfl | rfl | rfl
    · exact nonzero (inside (List.mem_cons_self ..)) rfl
    all_goals exact high (List.mem_cons_self ..) (by decide)
  have zeros : Text.Encoding.ofZeros bs = .utf8 := by
    unfold Text.Encoding.ofZeros
    split
    · rename_i a b
      rw [if_neg (nonzero (b := a) (by simp)), if_neg (nonzero (b := b) (by simp))]
    · rename_i a b c d rest
      rw [if_neg (nonzero (b := a) (by simp)), if_neg (nonzero (b := b) (by simp))]
    · rfl
  rw [Text.Encoding.detect, unmarked, zeros]

private theorem documentPoints?_plain {t : List Char} (h : ∀ c ∈ t, IsPlain c) :
    Text.documentPoints? (Text.toUtf8 (String.ofList t)) = some (t.map Char.toNat) := by
  have bytes : ∀ b ∈ t.map byteOf, 0 < b ∧ b < 0x80 := by
    rw [List.forall_mem_map]
    intro c here
    have plain := h c here
    rw [UInt8.lt_iff_toNat_lt, UInt8.lt_iff_toNat_lt, plain.toNat_byteOf]
    exact ⟨Nat.lt_of_lt_of_le (by decide) plain.1, Nat.lt_of_le_of_lt plain.2 (by decide)⟩
  rw [toUtf8_plain h, Text.documentPoints?, detect_plain bytes]
  exact utf8CodePoints?_plain h

theorem parse_plain {t : List Char} (h : ∀ c ∈ t, IsPlain c) : parse t = parseBy Char.toNat t := by
  cases t with
  | nil => rfl
  | cons c t =>
    have low : c.toNat ≤ 0x7e := (h c (List.mem_cons_self ..)).2
    have noMark : refuseMark ((c :: t).head?.map Char.toNat) = .ok () := by
      unfold refuseMark
      split
      · rename_i mark
        rw [Option.some.inj mark] at low
        omega
      · rfl
    rw [parse, noMark]
    rfl

theorem parseBytes_plain {t : List Char} (h : ∀ c ∈ t, IsPlain c) :
    parseBytes (Text.toUtf8 (String.ofList t)) = parseBy Char.toNat t := by
  have points : t.map Char.toNat = Text.codePoints (String.ofList t) := by
    rw [Text.codePoints, String.toList_ofList]
  rw [parseBytes, documentPoints?_plain h]
  dsimp only
  rw [parseDocument, points, Text.ofCodePoints?_codePoints]
  dsimp only
  rw [String.toList_ofList]

end RecordMapper.Json
