import RecordMapper.Proofs.Text.Utf8
import RecordMapper.Text.DecimalDigit
import RecordMapper.Text.Percent

/-!
Percent encoding is undone by reading each escape as a byte and the bytes as UTF-8. Encoded text has no
character that separates the parts of a URL, whatever the text is.
-/
namespace RecordMapper.Text

def escapeDigits : List Char :=
  ['0', '1', '2', '3', '4', '5', '6', '7', '8', '9', 'A', 'B', 'C', 'D', 'E', 'F']

/-- Nothing but unreserved characters and escapes of bytes. -/
inductive Escaped : List Char → Prop
  | nil : Escaped []
  | unreserved {c : Char} {cs : List Char} : isUnreserved c → Escaped cs → Escaped (c :: cs)
  | escape {a b : Char} {cs : List Char} : a ∈ escapeDigits → b ∈ escapeDigits → Escaped cs →
      Escaped ('%' :: a :: b :: cs)

/-- The bytes that escaped text stands for: an escape is one byte, any other character its UTF-8. -/
def unescape? : List Char → Option (List UInt8)
  | [] => some []
  | '%' :: a :: b :: cs => do
    let byte := UInt8.ofNat (16 * (← hexValue? a) + (← hexValue? b))
    return byte :: (← unescape? cs)
  | c :: cs => if c = '%' then none else (unescape? cs).map (String.utf8EncodeChar c ++ ·)

def percentDecode? (s : String) : Option String :=
  (unescape? s.toList).bind ofUtf8?

def urlDelimiters : List Char := [':', '/', '@', '?', '#', '[', ']']

theorem upperHexDigit_mem : ∀ n < 16, upperHexDigit n ∈ escapeDigits := by decide

theorem hexValue?_upperHexDigit : ∀ n < 16, hexValue? (upperHexDigit n) = some n := by decide

section

variable {c : Char} {cs : List Char}

theorem unescape?_of_ne (h : c ≠ '%') :
    unescape? (c :: cs) = (unescape? cs).map (String.utf8EncodeChar c ++ ·) := by
  rw [unescape?.eq_def]
  split
  · next nil => cases nil
  · next same => exact absurd (List.cons.inj same).1 h
  · next same =>
    obtain ⟨rfl, rfl⟩ := List.cons.inj same
    rw [if_neg h]

theorem unescape?_percentByte (b : UInt8) :
    unescape? (percentByte b ++ cs) = (unescape? cs).map (b :: ·) := by
  have small : b.toNat < 256 := b.toNat_lt
  have whole : 16 * (b.toNat / 16) + b.toNat % 16 = b.toNat := Nat.div_add_mod ..
  change (do
    let byte := UInt8.ofNat (16 * (← hexValue? (upperHexDigit (b.toNat / 16))) +
      (← hexValue? (upperHexDigit (b.toNat % 16))))
    return byte :: (← unescape? cs)) = _
  rw [hexValue?_upperHexDigit _ (by omega), hexValue?_upperHexDigit _ (by omega)]
  dsimp only [Option.bind_eq_bind, Option.bind_some]
  rw [whole, UInt8.ofNat_toNat]
  cases unescape? cs <;> rfl

theorem unescape?_percentBytes (bs : List UInt8) :
    unescape? (bs.flatMap percentByte ++ cs) = (unescape? cs).map (bs ++ ·) := by
  induction bs with
  | nil => simp
  | cons b bs ih =>
    rw [List.flatMap_cons, List.append_assoc, unescape?_percentByte, ih, Option.map_map]
    rfl

private theorem ne_percent_of_isUnreserved (h : isUnreserved c) : c ≠ '%' := by
  rintro rfl
  revert h
  decide

theorem unescape?_percentChar (c : Char) :
    unescape? (percentChar c ++ cs) = (unescape? cs).map (String.utf8EncodeChar c ++ ·) := by
  rw [percentChar]
  split
  · next kept => exact unescape?_of_ne (ne_percent_of_isUnreserved kept)
  · exact unescape?_percentBytes _

theorem unescape?_percentEncode (s : String) :
    unescape? (percentEncode s).toList = some (toUtf8 s) := by
  rw [percentEncode_toList, toUtf8]
  induction s.toList with
  | nil => rfl
  | cons c cs ih =>
    rw [List.flatMap_cons, unescape?_percentChar, ih]
    rfl

theorem percentDecode?_percentEncode (s : String) : percentDecode? (percentEncode s) = some s := by
  rw [percentDecode?, unescape?_percentEncode, Option.bind_some, ofUtf8?_toUtf8]

theorem Escaped.percentByte_append (b : UInt8) (h : Escaped cs) : Escaped (percentByte b ++ cs) := by
  have small : b.toNat < 256 := b.toNat_lt
  exact .escape (upperHexDigit_mem _ (by omega)) (upperHexDigit_mem _ (by omega)) h

theorem Escaped.percentBytes_append (bs : List UInt8) (h : Escaped cs) :
    Escaped (bs.flatMap percentByte ++ cs) := by
  induction bs with
  | nil => exact h
  | cons b bs ih =>
    rw [List.flatMap_cons, List.append_assoc]
    exact ih.percentByte_append b

theorem Escaped.percentChar_append (c : Char) (h : Escaped cs) : Escaped (percentChar c ++ cs) := by
  rw [percentChar]
  split
  · next kept => exact .unreserved kept h
  · exact h.percentBytes_append _

theorem escaped_percentEncode (s : String) : Escaped (percentEncode s).toList := by
  rw [percentEncode_toList]
  induction s.toList with
  | nil => exact .nil
  | cons c cs ih =>
    rw [List.flatMap_cons]
    exact ih.percentChar_append c

/-- No part of a URL ends inside escaped text. -/
theorem Escaped.not_mem (h : Escaped cs) : ∀ c ∈ urlDelimiters, c ∉ cs := by
  have reserved : ∀ c ∈ urlDelimiters, isUnreserved c = false ∧ c ≠ '%' ∧ c ∉ escapeDigits := by
    simp [urlDelimiters, isUnreserved, escapeDigits]
  intro c separates
  obtain ⟨notKept, notMark, notDigit⟩ := reserved c separates
  have ne_digit {a : Char} (digit : a ∈ escapeDigits) : c ≠ a := by
    rintro rfl
    exact notDigit digit
  induction h with
  | nil => exact List.not_mem_nil
  | unreserved kept _ ih =>
    rw [List.mem_cons, not_or]
    refine ⟨?_, ih⟩
    rintro rfl
    rw [notKept] at kept
    cases kept
  | escape ha hb _ ih =>
    simp only [List.mem_cons, not_or]
    exact ⟨notMark, ne_digit ha, ne_digit hb, ih⟩

end

end RecordMapper.Text
