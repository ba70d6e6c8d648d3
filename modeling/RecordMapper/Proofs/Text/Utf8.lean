import RecordMapper.Text.Encoding

/-!
Text as UTF-8 and back. The bytes of a character are read as this character, whatever follows them, and so
reading the bytes of a text gives the text.
-/
namespace RecordMapper.Text

theorem byte_lt_iff {n : Nat} (h : n < 256) {b : UInt8} : UInt8.ofNat n < b ↔ n < b.toNat := by
  rw [UInt8.lt_iff_toNat_lt, UInt8.toNat_ofNat_of_lt' h]

theorem byte_between_iff {n : Nat} (h : n < 256) {low high : UInt8} :
    low ≤ UInt8.ofNat n ∧ UInt8.ofNat n < high ↔ low.toNat ≤ n ∧ n < high.toNat := by
  rw [byte_lt_iff h, UInt8.le_iff_toNat_le, UInt8.toNat_ofNat_of_lt' h]

theorem continuation?_byte {n : Nat} (h : n < 64) : continuation? (UInt8.ofNat (n + 128)) = some n := by
  have small : n + 128 < 256 := by omega
  have payload : (0x80 : UInt8) ≤ UInt8.ofNat (n + 128) ∧ UInt8.ofNat (n + 128) < 0xc0 := by
    rw [byte_between_iff small]
    change 128 ≤ n + 128 ∧ n + 128 < 192
    omega
  rw [continuation?, if_pos payload, UInt8.toNat_ofNat_of_lt' small, Nat.add_sub_cancel]

section

variable {rest : List UInt8}

theorem utf8CodePoints?_one {n : Nat} (h : n < 128) :
    utf8CodePoints? (UInt8.ofNat n :: rest) = (utf8CodePoints? rest).map (n :: ·) := by
  have small : n < 256 := by omega
  have lead : UInt8.ofNat n < 0x80 := (byte_lt_iff small).2 h
  rw [utf8CodePoints?.eq_def]
  dsimp only
  rw [if_pos lead, UInt8.toNat_ofNat_of_lt' small]

theorem utf8CodePoints?_two {a b : Nat} (low : 2 ≤ a) (ha : a < 32) (hb : b < 64) :
    utf8CodePoints? (UInt8.ofNat (a + 192) :: UInt8.ofNat (b + 128) :: rest) =
      (utf8CodePoints? rest).map ((a * 64 + b) :: ·) := by
  have small : a + 192 < 256 := by omega
  have notOne : ¬UInt8.ofNat (a + 192) < 0x80 := by
    rw [byte_lt_iff small]
    change ¬a + 192 < 128
    omega
  have lead : 0xc2 ≤ UInt8.ofNat (a + 192) ∧ UInt8.ofNat (a + 192) < 0xe0 := by
    rw [byte_between_iff small]
    change 194 ≤ a + 192 ∧ a + 192 < 224
    omega
  rw [utf8CodePoints?.eq_def]
  dsimp only
  rw [if_neg notOne, if_pos lead, continuation?_byte hb, UInt8.toNat_ofNat_of_lt' small, Nat.add_sub_cancel]
  cases utf8CodePoints? rest <;> rfl

theorem utf8CodePoints?_three {a b c : Nat} (ha : a < 16) (hb : b < 64) (hc : c < 64)
    (long : 0x800 ≤ a * 4096 + b * 64 + c) :
    utf8CodePoints? (UInt8.ofNat (a + 224) :: UInt8.ofNat (b + 128) :: UInt8.ofNat (c + 128) :: rest) =
      (utf8CodePoints? rest).map ((a * 4096 + b * 64 + c) :: ·) := by
  have small : a + 224 < 256 := by omega
  have notOne : ¬UInt8.ofNat (a + 224) < 0x80 := by
    rw [byte_lt_iff small]
    change ¬a + 224 < 128
    omega
  have notTwo : ¬(0xc2 ≤ UInt8.ofNat (a + 224) ∧ UInt8.ofNat (a + 224) < 0xe0) := by
    rw [byte_between_iff small]
    change ¬(194 ≤ a + 224 ∧ a + 224 < 224)
    omega
  have lead : 0xe0 ≤ UInt8.ofNat (a + 224) ∧ UInt8.ofNat (a + 224) < 0xf0 := by
    rw [byte_between_iff small]
    change 224 ≤ a + 224 ∧ a + 224 < 240
    omega
  rw [utf8CodePoints?.eq_def]
  dsimp only
  rw [if_neg notOne, if_neg notTwo, if_pos lead, continuation?_byte hb, continuation?_byte hc,
    UInt8.toNat_ofNat_of_lt' small, Nat.add_sub_cancel]
  dsimp only [Option.bind_eq_bind, Option.bind_some]
  rw [if_neg (Nat.not_lt.2 long)]
  cases utf8CodePoints? rest <;> rfl

theorem utf8CodePoints?_four {a b c d : Nat} (ha : a < 5) (hb : b < 64) (hc : c < 64) (hd : d < 64)
    (long : 0x10000 ≤ a * 262144 + b * 4096 + c * 64 + d)
    (last : a * 262144 + b * 4096 + c * 64 + d ≤ 0x10ffff) :
    utf8CodePoints? (UInt8.ofNat (a + 240) :: UInt8.ofNat (b + 128) :: UInt8.ofNat (c + 128) ::
      UInt8.ofNat (d + 128) :: rest) =
        (utf8CodePoints? rest).map ((a * 262144 + b * 4096 + c * 64 + d) :: ·) := by
  have small : a + 240 < 256 := by omega
  have notOne : ¬UInt8.ofNat (a + 240) < 0x80 := by
    rw [byte_lt_iff small]
    change ¬a + 240 < 128
    omega
  have notTwo : ¬(0xc2 ≤ UInt8.ofNat (a + 240) ∧ UInt8.ofNat (a + 240) < 0xe0) := by
    rw [byte_between_iff small]
    change ¬(194 ≤ a + 240 ∧ a + 240 < 224)
    omega
  have notThree : ¬(0xe0 ≤ UInt8.ofNat (a + 240) ∧ UInt8.ofNat (a + 240) < 0xf0) := by
    rw [byte_between_iff small]
    change ¬(224 ≤ a + 240 ∧ a + 240 < 240)
    omega
  have lead : 0xf0 ≤ UInt8.ofNat (a + 240) ∧ UInt8.ofNat (a + 240) < 0xf5 := by
    rw [byte_between_iff small]
    change 240 ≤ a + 240 ∧ a + 240 < 245
    omega
  rw [utf8CodePoints?.eq_def]
  dsimp only
  rw [if_neg notOne, if_neg notTwo, if_neg notThree, if_pos lead, continuation?_byte hb,
    continuation?_byte hc, continuation?_byte hd, UInt8.toNat_ofNat_of_lt' small, Nat.add_sub_cancel]
  simp only [Option.bind_eq_bind]
  rw [Option.bind_some, Option.bind_some, Option.bind_some]
  rw [if_neg (by omega)]
  cases utf8CodePoints? rest <;> rfl

theorem utf8CodePoints?_encodeChar (c : Char) :
    utf8CodePoints? (String.utf8EncodeChar c ++ rest) =
      (utf8CodePoints? rest).map (c.toNat :: ·) := by
  have valid : c.val.toNat ≤ 0x10ffff := by
    rcases c.valid with h | h <;> omega
  unfold String.utf8EncodeChar
  change _ = (utf8CodePoints? rest).map (c.val.toNat :: ·)
  generalize c.val.toNat = v at valid
  dsimp only
  split
  · next one => exact utf8CodePoints?_one (by omega)
  split
  · next more two =>
    have whole : v / 64 % 32 * 64 + v % 64 = v := by omega
    refine (utf8CodePoints?_two (by omega) (by omega) (by omega)).trans ?_
    rw [whole]
    rfl
  split
  · next more three =>
    have whole : v / 4096 % 16 * 4096 + v / 64 % 64 * 64 + v % 64 = v := by omega
    refine (utf8CodePoints?_three (by omega) (by omega) (by omega) (by omega)).trans ?_
    rw [whole]
    rfl
  · next more =>
    have whole : v / 262144 % 8 * 262144 + v / 4096 % 64 * 4096 + v / 64 % 64 * 64 + v % 64 = v := by
      omega
    refine (utf8CodePoints?_four (by omega) (by omega) (by omega) (by omega) (by omega) (by omega)).trans ?_
    rw [whole]
    rfl

end

theorem utf8CodePoints?_toUtf8 (s : String) : utf8CodePoints? (toUtf8 s) = some (codePoints s) := by
  rw [toUtf8, codePoints]
  induction s.toList with
  | nil => rfl
  | cons c cs ih =>
    rw [List.flatMap_cons, utf8CodePoints?_encodeChar, ih]
    rfl

@[simp] theorem ofUtf8?_toUtf8 (s : String) : ofUtf8? (toUtf8 s) = some s := by
  rw [ofUtf8?, utf8CodePoints?_toUtf8, Option.bind_some, ofCodePoints?_codePoints]

end RecordMapper.Text
