import RecordMapper.Json.Reader
import RecordMapper.Json.Writer
import RecordMapper.Proofs.Except

/-!
Quoted texts and whole numbers of JSON, read back. Each character of a text is written by itself, as a
short escape, or as one or two UTF-16 units in hexadecimal digits. It is read back by itself, too: what is
written for it tells where it ends, whatever follows.
-/
namespace RecordMapper

namespace Text

private theorem hexValue?_hexDigit : ∀ n < 16, hexValue? (hexDigit n) = some n := by decide

private theorem isPrintable_hexDigit : ∀ n < 16, 0x20 ≤ (hexDigit n).toNat ∧ (hexDigit n).toNat ≤ 0x7e := by
  decide

end Text

namespace Json

def IsPlain (c : Char) : Prop := 0x20 ≤ c.toNat ∧ c.toNat ≤ 0x7e

instance (c : Char) : Decidable (IsPlain c) := inferInstanceAs (Decidable (_ ∧ _))

/-! Units. -/

theorem hexUnit?_hexDigits {n : Nat} (h : n < 0x10000) (c : Char) (rest : List Char) :
    hexUnit? (Text.hexDigits 4 n ++ c :: rest) = some n := by
  have digit (k : Nat) := Text.hexValue?_hexDigit (n / k % 16) (Nat.mod_lt _ (by decide))
  have parts : ((n / 4096 % 16 * 16 + n / 256 % 16) * 16 + n / 16 % 16) * 16 + n / 1 % 16 = n := by
    omega
  have powers : Nat.pow 16 3 = 4096 ∧ Nat.pow 16 2 = 256 ∧ Nat.pow 16 1 = 16 ∧ Nat.pow 16 0 = 1 := by
    decide
  obtain ⟨p3, p2, p1, p0⟩ := powers
  simp only [Text.hexDigits, p3, p2, p1, p0, List.cons_append, List.nil_append, hexUnit?, digit]
  exact congrArg some parts

private theorem isPlain_of_mem_escapedUnit {n : Nat} {c : Char} (h : c ∈ escapedUnit n) : IsPlain c := by
  simp only [escapedUnit, Text.hexDigits, List.mem_cons, List.not_mem_nil, or_false] at h
  rcases h with rfl | rfl | rfl | rfl | rfl | rfl
  · decide
  · decide
  all_goals exact Text.isPrintable_hexDigit _ (Nat.mod_lt _ (by decide))

/-! Characters. -/

theorem readPoints_skip (point : Char → Nat) (start : Nat) (skipped rest : List Char) :
    readPoints point start skipped.length (skipped ++ rest) = readPoints point start 0 rest := by
  induction skipped with
  | nil => rfl
  | cons c cs ih =>
    rw [List.cons_append, List.length_cons, readPoints]
    exact ih

def followedBy (n : Nat) (r : Except Stop (Rest (List Nat))) : Except Stop (Rest (List Nat)) :=
  r.map fun (ns, rest) => (n :: ns, rest)

variable {point : Char → Nat} {start : Nat}

theorem readPoints_escape {n : Nat} (used : List Char) {rest : List Char}
    (h : readEscape start (used ++ rest) = .ok (n, used.length)) :
    readPoints point start 0 ('\\' :: used ++ rest) = followedBy n (readPoints point start 0 rest) := by
  rw [List.cons_append, readPoints, h]
  dsimp only [Except.bind, bind]
  rw [readPoints_skip]
  cases readPoints point start 0 rest <;> rfl

theorem readPoints_unit {n : Nat} (h : n < 0x10000) (single : isHigh n = false) (c : Char)
    (rest : List Char) :
    readPoints point start 0 (escapedUnit n ++ c :: rest) =
      followedBy n (readPoints point start 0 (c :: rest)) := by
  refine readPoints_escape ('u' :: Text.hexDigits 4 n) ?_
  rw [List.cons_append, readEscape, hexUnit?_hexDigits h]
  simp [single]

theorem readPoints_pair {n : Nat} (low : 0x10000 ≤ n) (high : n < 0x110000) (c : Char)
    (rest : List Char) :
    readPoints point start 0
        (escapedUnit (0xd800 + (n - 0x10000) / 1024) ++
          (escapedUnit (0xdc00 + (n - 0x10000) % 1024) ++ c :: rest)) =
      followedBy n (readPoints point start 0 (c :: rest)) := by
  have first : 0xd800 + (n - 0x10000) / 1024 < 0x10000 := by omega
  have second : 0xdc00 + (n - 0x10000) % 1024 < 0x10000 := by omega
  have isFirst : isHigh (0xd800 + (n - 0x10000) / 1024) = true := by
    simp only [isHigh, Bool.and_eq_true, decide_eq_true_eq]
    omega
  have isSecond : isLow (0xdc00 + (n - 0x10000) % 1024) = true := by
    simp only [isLow, Bool.and_eq_true, decide_eq_true_eq]
    omega
  have whole : 0x10000 + (0xd800 + (n - 0x10000) / 1024 - 0xd800) * 1024 +
      (0xdc00 + (n - 0x10000) % 1024 - 0xdc00) = n := by
    omega
  generalize 0xd800 + (n - 0x10000) / 1024 = u at *
  generalize 0xdc00 + (n - 0x10000) % 1024 = v at *
  have read : readEscape start ('u' :: Text.hexDigits 4 u ++ (escapedUnit v ++ c :: rest)) =
      .ok (n, 11) := by
    rw [List.cons_append, readEscape]
    have unit : hexUnit? (Text.hexDigits 4 u ++ (escapedUnit v ++ c :: rest)) = some u :=
      hexUnit?_hexDigits first _ _
    have behind : (Text.hexDigits 4 u ++ (escapedUnit v ++ c :: rest)).drop 4 =
        '\\' :: 'u' :: (Text.hexDigits 4 v ++ c :: rest) :=
      List.drop_left' (Text.length_hexDigits 4 u)
    have enough : ¬(Text.hexDigits 4 v ++ c :: rest).length < 5 := by
      rw [List.length_append, Text.length_hexDigits, List.length_cons]
      omega
    simp only [unit, isFirst, if_true, behind, enough, if_false, hexUnit?_hexDigits second, isSecond,
      whole]
  have used : ('u' :: Text.hexDigits 4 u ++ escapedUnit v).length = 11 := by
    simp [escapedUnit]
  rw [← List.append_assoc]
  refine readPoints_escape ('u' :: Text.hexDigits 4 u ++ escapedUnit v) ?_
  rw [used, List.append_assoc]
  exact read

theorem readPoints_self {c : Char} (plain : IsPlain c) (quote : c ≠ '"') (backslash : c ≠ '\\')
    (rest : List Char) :
    readPoints point start 0 (c :: rest) = followedBy (point c) (readPoints point start 0 rest) := by
  have control : ¬c.toNat < 0x20 := Nat.not_lt.2 plain.1
  rw [readPoints]
  · rw [if_neg control]
    cases readPoints point start 0 rest <;> rfl
  · exact fun h => quote h
  · exact fun h => backslash h

theorem writeChar_cases (c : Char) :
    (∃ e, writeChar c = ['\\', e] ∧ e ≠ 'u' ∧ IsPlain e ∧ shortEscape? e = some c) ∨
    (writeChar c = [c] ∧ IsPlain c ∧ c ≠ '"' ∧ c ≠ '\\') ∨
    writeChar c = (units16 c.toNat).flatMap escapedUnit := by
  have short {d e : Char} (same : c = d) (plain : IsPlain e) (read : shortEscape? e = some d)
      (other : e ≠ 'u') :
      ∃ f, ['\\', e] = ['\\', f] ∧ f ≠ 'u' ∧ IsPlain f ∧ shortEscape? f = some c :=
    ⟨e, rfl, other, plain, same ▸ read⟩
  unfold writeChar
  split
  · exact .inl (short ‹_› (by decide) rfl (by decide))
  split
  · exact .inl (short ‹_› (by decide) rfl (by decide))
  split
  · exact .inl (short ‹_› (by decide) rfl (by decide))
  split
  · exact .inl (short ‹_› (by decide) rfl (by decide))
  split
  · exact .inl (short ‹_› (by decide) rfl (by decide))
  split
  · exact .inl (short ‹_› (by decide) rfl (by decide))
  split
  · exact .inl (short ‹_› (by decide) rfl (by decide))
  split
  · rename_i quote backslash _ _ _ _ _ plain
    exact .inr (.inl ⟨rfl, plain, quote, backslash⟩)
  · exact .inr (.inr rfl)

theorem readPoints_short {c e : Char} (read : shortEscape? e = some c) (other : e ≠ 'u')
    (rest : List Char) :
    readPoints point start 0 ('\\' :: e :: rest) =
      followedBy c.toNat (readPoints point start 0 rest) := by
  refine readPoints_escape [e] ?_
  rw [List.singleton_append, readEscape]
  · rw [read]
    rfl
  · exact fun h => other h

theorem readPoints_units (c d : Char) (rest : List Char) :
    readPoints point start 0 ((units16 c.toNat).flatMap escapedUnit ++ d :: rest) =
      followedBy c.toNat (readPoints point start 0 (d :: rest)) := by
  have valid : c.toNat < 0xd800 ∨ 0xdfff < c.toNat ∧ c.toNat < 0x110000 := c.valid
  unfold units16
  split
  · rename_i low
    have single : isHigh c.toNat = false := by
      simp only [isHigh, Bool.and_eq_false_iff, decide_eq_false_iff_not]
      omega
    simpa using readPoints_unit low single d rest
  · rename_i high
    simpa using readPoints_pair (Nat.not_lt.1 high) (by omega) d rest

theorem readPoints_writeChar (c d : Char) (rest : List Char) :
    readPoints Char.toNat start 0 (writeChar c ++ d :: rest) =
      followedBy c.toNat (readPoints Char.toNat start 0 (d :: rest)) := by
  rcases writeChar_cases c with ⟨e, written, other, _, read⟩ | ⟨written, plain, quote, backslash⟩ | written
  · rw [written]
    exact readPoints_short read other _
  · rw [written]
    exact readPoints_self plain quote backslash _
  · rw [written]
    exact readPoints_units c d rest

private theorem isPlain_of_mem_writeChar {c d : Char} (h : d ∈ writeChar c) : IsPlain d := by
  rcases writeChar_cases c with ⟨e, written, _, plain, _⟩ | ⟨written, plain, _⟩ | written
  · rw [written] at h
    rcases List.mem_pair.1 h with rfl | rfl
    · decide
    · exact plain
  · rw [written] at h
    exact List.mem_singleton.1 h ▸ plain
  · rw [written] at h
    obtain ⟨n, _, here⟩ := List.mem_flatMap.1 h
    exact isPlain_of_mem_escapedUnit here

/-! Texts. -/

theorem readPoints_writeText (cs rest : List Char) :
    readPoints Char.toNat start 0 (cs.flatMap writeChar ++ '"' :: rest) =
      .ok (cs.map Char.toNat, rest) := by
  induction cs with
  | nil => rfl
  | cons c cs ih =>
    -- An escape of four digits is read only if something follows; the closing quote does at least.
    have more : ∃ d ds, cs.flatMap writeChar ++ '"' :: rest = d :: ds := by
      cases cs.flatMap writeChar with
      | nil => exact ⟨_, _, rfl⟩
      | cons d ds => exact ⟨d, _, rfl⟩
    obtain ⟨d, ds, split⟩ := more
    rw [List.flatMap_cons, List.append_assoc, split, readPoints_writeChar, ← split, ih]
    rfl

theorem readText_writeText (s : String) (rest : List Char) :
    readText Char.toNat (s.toList.flatMap writeChar ++ '"' :: rest) = .ok (.text s, rest) := by
  have value : Value.ofCodePoints (s.toList.map Char.toNat) = .text s := Value.ofCodePoints_codePoints s
  rw [readText, readPoints_writeText]
  exact congrArg (fun v => Except.ok (v, rest)) value

theorem isPlain_of_mem_writeText {cs : List Char} {c : Char} (h : c ∈ writeText cs) : IsPlain c := by
  have quote : IsPlain '"' := by decide
  rw [writeText, List.cons_append, List.mem_cons, List.mem_append, List.mem_singleton] at h
  rcases h with rfl | h | rfl
  · exact quote
  · obtain ⟨d, _, here⟩ := List.mem_flatMap.1 h
    exact isPlain_of_mem_writeChar here
  · exact quote

end Json

end RecordMapper
