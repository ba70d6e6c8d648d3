import Mathlib.Data.List.TakeDrop
import RecordMapper.Json.Reader
import RecordMapper.Json.Writer
import RecordMapper.Proofs.Except

/-!
Whole numbers of JSON, read back. A number ends where no digit, point or exponent follows, so it is read
back as it was written in front of whatever may stand behind a value.
-/
namespace RecordMapper.Json

theorem toList_integer (n : Int) :
    (toString n).toList =
      if 0 ≤ n then Number.digitsOf n.natAbs else '-' :: Number.digitsOf n.natAbs := by
  rw [Int.toString_eq_repr, Int.repr_eq_if]
  split
  · rename_i pos
    have size : n.toNat = n.natAbs := by omega
    rw [Nat.toList_repr, size, Number.digitsOf]
  · rename_i neg
    have size : (-n).toNat = n.natAbs := by omega
    rw [String.toList_append, Nat.toList_repr, size, Number.digitsOf]
    rfl

theorem isDigit_digitsOf (n : Nat) : ∀ c ∈ Number.digitsOf n, c.isDigit = true := by
  intro c here
  exact Nat.isDigit_of_mem_toDigits (by decide) (by decide) here

private theorem asciiDigit?_of_isDigit {c : Char} (h : c.isDigit = true) :
    Text.asciiDigit? c = some (c.toNat - '0'.toNat) := by
  have range : '0' ≤ c ∧ c ≤ '9' := by
    simpa [Char.isDigit, Char.le_def] using h
  rw [Text.asciiDigit?, if_pos range]
  rfl

theorem positional_digitsOf (n : Nat) : Number.positional (Number.digitsOf n) = n := by
  have digits := isDigit_digitsOf n
  have value : Number.positional (Number.digitsOf n) = Nat.ofDigitChars 10 (Number.digitsOf n) 0 := by
    rw [Number.positional, Nat.ofDigitChars_eq_foldl]
    refine List.foldl_ext _ _ _ fun m c here => ?_
    rw [asciiDigit?_of_isDigit (digits c here)]
    rfl
  rw [value, Number.digitsOf, Nat.ofDigitChars_ten_toDigits]

private theorem eq_zero_of_digitsOf {n : Nat} {ds : List Char} (h : Number.digitsOf n = '0' :: ds) : n = 0 := by
  induction n using Nat.strongRecOn generalizing ds with
  | ind n ih =>
    by_cases small : n < 10
    · rw [Number.digitsOf, Nat.toDigits_of_lt_base small] at h
      have value := Nat.toNat_digitChar_of_lt_ten small
      rw [(List.cons.inj h).1] at value
      have zero : '0'.toNat = 48 := rfl
      omega
    · have tens : 10 ≤ n := Nat.not_lt.1 small
      rw [Number.digitsOf, Nat.toDigits_of_base_le (by decide) tens] at h
      cases front : Nat.toDigits 10 (n / 10) with
      | nil => exact absurd front Nat.toDigits_ne_nil
      | cons d rest =>
        rw [front, List.cons_append] at h
        obtain rfl := (List.cons.inj h).1
        have := ih (n / 10) (by omega) front
        omega

/-- What may stand behind a value: nothing, or what closes or continues a list or a map. -/
def Ends (rest : List Char) : Prop := ∀ c ∈ rest.head?, c = ',' ∨ c = ']' ∨ c = '\x7d'

theorem Ends.head_ne {c d : Char} {rest : List Char} (h : Ends (c :: rest))
    (other : d ∉ [',', ']', '\x7d']) : c ≠ d := by
  rintro rfl
  exact other (by simpa using h c rfl)

theorem Ends.spanDigits {rest : List Char} (h : Ends rest) (n : Nat) :
    Number.spanDigits (Number.digitsOf n ++ rest) = (Number.digitsOf n, rest) := by
  have digits := isDigit_digitsOf n
  have stop : rest.takeWhile Char.isDigit = [] ∧ rest.dropWhile Char.isDigit = rest := by
    cases rest with
    | nil => exact ⟨rfl, rfl⟩
    | cons c rest =>
      have other : c.isDigit = false := by
        rcases h c rfl with rfl | rfl | rfl <;> rfl
      simp [other]
  rw [Number.spanDigits, List.span_eq_takeWhile_dropWhile, List.takeWhile_append_of_pos digits,
    List.dropWhile_append_of_pos digits, stop.1, stop.2, List.append_nil]

theorem Ends.wholePart? {rest : List Char} (h : Ends rest) (n : Nat) :
    Json.wholePart? (Number.digitsOf n ++ rest) = some (Number.digitsOf n, rest) := by
  by_cases zero : n = 0
  · subst zero
    rfl
  · unfold Json.wholePart?
    split
    · rename_i cs starts
      cases digits : Number.digitsOf n with
      | nil => exact absurd digits Nat.toDigits_ne_nil
      | cons d ds =>
        rw [digits, List.cons_append] at starts
        rw [(List.cons.inj starts).1] at digits
        exact absurd (eq_zero_of_digitsOf digits) zero
    · rw [h.spanDigits]
      simp [Number.digitsOf, Nat.toDigits_ne_nil]

theorem Ends.fraction? {rest : List Char} (h : Ends rest) : Json.fraction? rest = none := by
  unfold Json.fraction?
  split
  · exact absurd rfl (h.head_ne (d := '.') (by decide))
  · rfl

theorem Ends.exponent? {rest : List Char} (h : Ends rest) : Json.exponent? rest = none := by
  cases rest with
  | nil => rfl
  | cons c rest =>
    have small : c ≠ 'e' := h.head_ne (by decide)
    have capital : c ≠ 'E' := h.head_ne (by decide)
    simp [Json.exponent?, small, capital]

private theorem isOverlong_eq_false_iff {n : Int} :
    Number.isOverlong n = false ↔ ¬Number.longestInteger < (Number.digitsOf n.natAbs).length := by
  have positive : 0 < Number.longestInteger := by decide
  unfold Number.isOverlong
  generalize Number.longestInteger = longest at *
  rw [decide_eq_false_iff_not, Nat.not_le, Nat.not_lt]
  exact (Nat.length_toDigits_le_iff (by decide) positive).symm

theorem readNumber_whole {cs body whole rest : List Char} (negative : Bool)
    (sign : cs = '-' :: body ∧ negative = true ∨ cs = body ∧ negative = false ∧ ∀ ds, cs ≠ '-' :: ds)
    (part : Json.wholePart? body = some (whole, rest))
    (short : ¬Number.longestInteger < whole.length) (h : Ends rest) :
    readNumber cs =
      .ok (.int (if negative then -(Number.positional whole : Nat) else (Number.positional whole : Nat)),
        rest) := by
  unfold readNumber
  split
  rename_i negative' body' parts
  -- The reader looks for a sign by itself, and finds the one that is given.
  have same : body' = body ∧ negative' = negative := by
    split at parts
    · rcases sign with ⟨starts, rfl⟩ | ⟨_, _, other⟩
      · exact ⟨(Prod.mk.inj parts).2.symm.trans (List.cons.inj starts).2, (Prod.mk.inj parts).1.symm⟩
      · exact absurd rfl (other _)
    · rename_i other
      rcases sign with ⟨starts, _⟩ | ⟨rfl, rfl, _⟩
      · exact absurd starts (other _)
      · exact ⟨(Prod.mk.inj parts).2.symm, (Prod.mk.inj parts).1.symm⟩
  obtain ⟨rfl, rfl⟩ := same
  simp only [part, pure_bind, h.fraction?, h.exponent?, Option.map_none, Option.getD_none,
    Option.isNone_none, Bool.and_self, if_true, short, if_false]
  rfl

theorem readNumber_integer {n : Int} (fits : Number.isOverlong n = false) {rest : List Char}
    (h : Ends rest) : readNumber ((toString n).toList ++ rest) = .ok (.int n, rest) := by
  have short := isOverlong_eq_false_iff.1 fits
  have part := h.wholePart? n.natAbs
  rw [toList_integer]
  split
  · rename_i pos
    have value : ((n.natAbs : Nat) : Int) = n := by omega
    have noSign : ∀ ds, Number.digitsOf n.natAbs ++ rest ≠ '-' :: ds := by
      intro ds starts
      cases digits : Number.digitsOf n.natAbs with
      | nil => exact Nat.toDigits_ne_nil digits
      | cons d more =>
        have isDigit := isDigit_digitsOf n.natAbs d (digits ▸ List.mem_cons_self ..)
        rw [digits, List.cons_append] at starts
        rw [(List.cons.inj starts).1] at isDigit
        cases isDigit
    have read := readNumber_whole false (.inr ⟨rfl, rfl, noSign⟩) part short h
    rwa [positional_digitsOf, if_neg Bool.false_ne_true, value] at read
  · rename_i neg
    have value : -((n.natAbs : Nat) : Int) = n := by omega
    have read := readNumber_whole true (.inl ⟨rfl, rfl⟩) part short h
    rwa [positional_digitsOf, if_pos rfl, value] at read

end RecordMapper.Json
