import RecordMapper.Proofs.Json.Ascii
import RecordMapper.Proofs.Json.Integer

/-!
Documents of JSON, written and read back. The text of a value tells by its first character what kind of
value it is, and by what closes it where it ends. So values inside lists and maps are read back in their
places, one after the other. Main statement: reading undoes writing, for texts and for their bytes.
-/
namespace RecordMapper

/-- The values that JSON has texts for, apart from numbers with fractions. The keys of a map are texts. -/
inductive Value.IsJson : Value → Prop
  | null : IsJson .null
  | bool (b : Bool) : IsJson (.bool b)
  | int (n : Int) : IsJson (.int n)
  | text (s : String) : IsJson (.text s)
  | list {xs : List Value} (items : ∀ x ∈ xs, IsJson x) : IsJson (.list xs)
  | dict {es : Entries} (keys : ∀ e ∈ es, ∃ s, e.1 = .text s)
      (distinct : es.Pairwise fun a b => (a.1 == b.1) = false) (values : ∀ e ∈ es, IsJson e.2) :
      IsJson (.dict es)

namespace Json

/-! Values inside one another. -/

theorem writeItems_eq_ok {xs : List Value} {ts : List (List Char)} :
    writeItems xs = .ok ts ↔ List.Forall₂ (fun x t => write x = .ok t) xs ts := by
  induction xs generalizing ts with
  | nil => rw [writeItems, pure_eq_ok, List.forall₂_nil_left_iff, eq_comm]
  | cons x xs ih =>
    rw [writeItems, List.forall₂_cons_left_iff]
    simp only [bind_eq_ok, pure_eq_ok, ih]
    constructor
    · rintro ⟨t, ht, us, hus, rfl⟩
      exact ⟨t, us, ht, hus, rfl⟩
    · rintro ⟨t, us, ht, hus, rfl⟩
      exact ⟨t, ht, us, hus, rfl⟩

def WritesMember (e : Value × Value) (t : List Char) : Prop :=
  ∃ key value, writeKey e.1 = .ok key ∧ write e.2 = .ok value ∧ t = key ++ ':' :: ' ' :: value

theorem writeMembers_eq_ok {es : Entries} {ts : List (List Char)} :
    writeMembers es = .ok ts ↔ List.Forall₂ WritesMember es ts := by
  induction es generalizing ts with
  | nil => rw [writeMembers, pure_eq_ok, List.forall₂_nil_left_iff, eq_comm]
  | cons e es ih =>
    rw [writeMembers, List.forall₂_cons_left_iff]
    simp only [bind_eq_ok, pure_eq_ok, ih, WritesMember]
    constructor
    · rintro ⟨key, hkey, value, hvalue, us, hus, rfl⟩
      exact ⟨_, us, ⟨key, value, hkey, hvalue, rfl⟩, hus, rfl⟩
    · rintro ⟨_, us, ⟨key, value, hkey, hvalue, rfl⟩, hus, rfl⟩
      exact ⟨key, hkey, value, hvalue, us, hus, rfl⟩

/-- The text starts with a character that is no space and closes nothing. -/
def Opens (t : List Char) : Prop :=
  ∃ c cs, t = c :: cs ∧ isSpace c = false ∧ c ≠ ']' ∧ c ≠ '\x7d'

theorem Opens.skip {t : List Char} (h : Opens t) : Json.skip t = t := by
  obtain ⟨c, cs, rfl, noSpace, _⟩ := h
  simp [Json.skip, noSpace]

theorem Opens.append {t : List Char} (h : Opens t) (rest : List Char) : Opens (t ++ rest) := by
  obtain ⟨c, cs, rfl, first⟩ := h
  exact ⟨c, cs ++ rest, rfl, first⟩

theorem Opens.separated {t : List Char} (h : Opens t) (ts : List (List Char)) :
    Opens (Json.separated (t :: ts)) := by
  cases ts with
  | nil => exact h
  | cons u us => exact h.append _

theorem skip_blank (cs : List Char) : skip (' ' :: cs) = skip cs := rfl

theorem length_separated (t u : List Char) (ts : List (List Char)) :
    (separated (t :: u :: ts)).length = t.length + (separated (u :: ts)).length + 2 := by
  rw [separated, List.length_append, List.length_cons, List.length_cons]
  · omega
  · simp

theorem separated_append (t u : List Char) (ts : List (List Char)) (rest : List Char) :
    separated (t :: u :: ts) ++ rest = t ++ ',' :: ' ' :: (separated (u :: ts) ++ rest) := by
  simp [separated]

/-- What is written for a value is read back as the value, whatever closes it. -/
structure ReadsBack (v : Value) (t : List Char) : Prop where
  opens : Opens t
  reads : ∀ steps rest, t.length ≤ steps → Ends rest →
    readValue Char.toNat steps (t ++ rest) = .ok (v, rest)

private theorem readItems_separated {x : Value} {t : List Char} {xs : List Value} {ts : List (List Char)}
    (first : ReadsBack x t) (others : List.Forall₂ ReadsBack xs ts) (steps : Nat)
    (enough : (separated (t :: ts)).length < steps) (rest : List Char) :
    readItems Char.toNat steps (separated (t :: ts) ++ ']' :: rest) = .ok (x :: xs, rest) := by
  -- Each item takes one step and what its own text takes, so that the bound is left for the others.
  induction others generalizing x t steps with
  | nil =>
    obtain ⟨steps, rfl⟩ := Nat.exists_eq_add_one_of_ne_zero (Nat.ne_zero_of_lt enough)
    have read := first.reads _ (']' :: rest) (Nat.lt_succ_iff.1 enough) (by simp [Ends])
    rw [separated, readItems, read]
    rfl
  | @cons y u ys us next _ ih =>
    obtain ⟨steps, rfl⟩ := Nat.exists_eq_add_one_of_ne_zero (Nat.ne_zero_of_lt enough)
    rw [length_separated] at enough
    have behind := ((next.opens.separated us).append (']' :: rest)).skip
    have read := first.reads steps (',' :: ' ' :: (separated (u :: us) ++ ']' :: rest)) (by omega)
      (by simp [Ends])
    have later := ih next steps (by omega)
    rw [separated_append, readItems, read]
    change (readItems Char.toNat steps (skip (' ' :: _)) >>= _) = _
    rw [skip_blank, behind, later]
    rfl

def MemberReadsBack (e : Value × Value) (t : List Char) : Prop :=
  ∃ s value, e.1 = .text s ∧ ReadsBack e.2 value ∧ t = writeText s.toList ++ ':' :: ' ' :: value

theorem MemberReadsBack.opens {e : Value × Value} {t : List Char} (h : MemberReadsBack e t) :
    Opens t := by
  obtain ⟨s, value, _, _, rfl⟩ := h
  exact ⟨'"', _, rfl, rfl, by decide, by decide⟩

theorem readMembers_append {e : Value × Value} {t : List Char} (h : MemberReadsBack e t) {steps : Nat}
    (enough : t.length ≤ steps) {rest : List Char} (ends : Ends rest) :
    readMembers Char.toNat (steps + 1) (t ++ rest) =
      match skip rest with
      | '\x7d' :: rest => .ok ([e], rest)
      | ',' :: rest => do
        let (members, rest) ← readMembers Char.toNat steps (skip rest)
        return (e :: members, rest)
      | rest => stop .expectedComma rest := by
  obtain ⟨k, v⟩ := e
  obtain ⟨s, value, key, back, rfl⟩ := h
  obtain rfl : k = .text s := key
  have start : writeText s.toList ++ ':' :: ' ' :: value ++ rest =
      '"' :: (s.toList.flatMap writeChar ++ '"' :: ':' :: ' ' :: (value ++ rest)) := by
    simp [writeText]
  have size : value.length ≤ steps := by
    simp only [List.length_append, List.length_cons] at enough
    omega
  have blank : skip (' ' :: (value ++ rest)) = value ++ rest := (back.opens.append rest).skip
  rw [start, readMembers]
  change (readText Char.toNat _ >>= _) = _
  rw [readText_writeText]
  change (readValue Char.toNat steps (skip (' ' :: (value ++ rest))) >>= _) = _
  rw [blank, back.reads _ _ size ends]
  rfl

private theorem readMembers_separated {e : Value × Value} {t : List Char} {es : Entries} {ts : List (List Char)}
    (first : MemberReadsBack e t) (others : List.Forall₂ MemberReadsBack es ts) (steps : Nat)
    (enough : (separated (t :: ts)).length < steps) (rest : List Char) :
    readMembers Char.toNat steps (separated (t :: ts) ++ '\x7d' :: rest) = .ok (e :: es, rest) := by
  induction others generalizing e t steps with
  | nil =>
    obtain ⟨steps, rfl⟩ := Nat.exists_eq_add_one_of_ne_zero (Nat.ne_zero_of_lt enough)
    rw [separated, readMembers_append first (Nat.lt_succ_iff.1 enough) (by simp [Ends])]
    rfl
  | @cons f u fs us next _ ih =>
    obtain ⟨steps, rfl⟩ := Nat.exists_eq_add_one_of_ne_zero (Nat.ne_zero_of_lt enough)
    rw [length_separated] at enough
    have behind := ((next.opens.separated us).append ('\x7d' :: rest)).skip
    have later := ih next steps (by omega)
    rw [separated_append, readMembers_append first (by omega) (by simp [Ends])]
    change (readMembers Char.toNat steps (skip (' ' :: _)) >>= _) = _
    rw [skip_blank, behind, later]
    rfl

/-! Values. -/

theorem readsBack_scalar {c : Char} {cs : List Char} {v : Value} (noSpace : isSpace c = false)
    (other : c ∉ [']', '\x7d', '"', '[', '\x7b'])
    (read : ∀ rest, Ends rest →
      (match readLiteral? (c :: cs ++ rest) with
        | some r => (.ok r : Except Stop (Rest Value))
        | none => readNumber (c :: cs ++ rest)) = .ok (v, rest)) :
    ReadsBack v (c :: cs) := by
  simp only [List.mem_cons, List.not_mem_nil, or_false, not_or] at other
  obtain ⟨endList, endDict, text, list, dict⟩ := other
  refine ⟨⟨c, cs, rfl, noSpace, endList, endDict⟩, fun steps rest enough ends => ?_⟩
  obtain ⟨steps, rfl⟩ := Nat.exists_eq_add_one_of_ne_zero (Nat.ne_zero_of_lt enough)
  rw [List.cons_append, readValue]
  · exact read rest ends
  · rintro rest h
    exact text (List.cons.inj h).1
  · rintro rest h
    exact list (List.cons.inj h).1
  · rintro rest h
    exact dict (List.cons.inj h).1

theorem readsBack_null : ReadsBack .null "null".toList :=
  readsBack_scalar rfl (by decide) fun _ _ => rfl

theorem readsBack_bool (b : Bool) : ReadsBack (.bool b) (if b then "true" else "false").toList := by
  cases b with
  | true => exact readsBack_scalar rfl (by decide) fun _ _ => rfl
  | false => exact readsBack_scalar rfl (by decide) fun _ _ => rfl

theorem readsBack_text (s : String) : ReadsBack (.text s) (writeText s.toList) := by
  refine ⟨⟨'"', _, rfl, rfl, by decide, by decide⟩, fun steps rest enough _ => ?_⟩
  have start : writeText s.toList ++ rest = '"' :: (s.toList.flatMap writeChar ++ '"' :: rest) := by
    simp [writeText]
  obtain ⟨steps, rfl⟩ := Nat.exists_eq_add_one_of_ne_zero (Nat.ne_zero_of_lt enough)
  rw [start, readValue, readText_writeText]

theorem readLiteral?_digit {d : Char} (h : d.isDigit = true) (cs : List Char) :
    readLiteral? (d :: cs) = none ∧ readLiteral? ('-' :: d :: cs) = none := by
  have other : 'n' ≠ d ∧ 't' ≠ d ∧ 'f' ≠ d ∧ 'N' ≠ d ∧ 'I' ≠ d ∧ '-' ≠ d := by
    refine ⟨?_, ?_, ?_, ?_, ?_, ?_⟩
    all_goals
      rintro rfl
      cases h
  obtain ⟨n, t, f, capitalN, i, sign⟩ := other
  simp [readLiteral?, literals, n, t, f, capitalN, i, sign]

theorem readsBack_integer {n : Int} (fits : Number.isOverlong n = false) :
    ReadsBack (.int n) (toString n).toList := by
  have read {rest : List Char} (ends : Ends rest) := readNumber_integer fits ends
  cases digits : Number.digitsOf n.natAbs with
  | nil => exact absurd digits Nat.toDigits_ne_nil
  | cons d ds =>
    have digit : d.isDigit = true :=
      isDigit_digitsOf n.natAbs d (digits ▸ List.mem_cons_self ..)
    have first : isSpace d = false ∧ d ∉ [']', '\x7d', '"', '[', '\x7b'] := by
      constructor
      · refine Bool.eq_false_iff.2 fun space => ?_
        simp only [isSpace, Bool.or_eq_true, beq_iff_eq] at space
        rcases space with ((rfl | rfl) | rfl) | rfl <;> cases digit
      · simp only [List.mem_cons, List.not_mem_nil, or_false]
        rintro (rfl | rfl | rfl | rfl | rfl) <;> cases digit
    by_cases pos : 0 ≤ n
    · have text : (toString n).toList = d :: ds := by rw [toList_integer, if_pos pos, digits]
      rw [text] at read ⊢
      refine readsBack_scalar first.1 first.2 fun rest ends => ?_
      rw [List.cons_append, (readLiteral?_digit digit _).1]
      exact read ends
    · have text : (toString n).toList = '-' :: d :: ds := by rw [toList_integer, if_neg pos, digits]
      rw [text] at read ⊢
      refine readsBack_scalar rfl (by decide) fun rest ends => ?_
      rw [List.cons_append, List.cons_append, (readLiteral?_digit digit _).2]
      exact read ends

private theorem readValue_list {cs : List Char} (h : Opens cs) (steps : Nat) :
    readValue Char.toNat (steps + 1) ('[' :: cs) =
      (readItems Char.toNat steps cs).map fun (items, rest) => (.list items, rest) := by
  have blank := h.skip
  obtain ⟨c, cs, rfl, _, noEnd, _⟩ := h
  rw [readValue, blank]
  split
  · exact absurd (List.cons.inj ‹_›).1 noEnd
  · cases readItems Char.toNat steps (c :: cs) <;> rfl

private theorem readValue_dict {cs : List Char} (h : Opens cs) (steps : Nat) :
    readValue Char.toNat (steps + 1) ('\x7b' :: cs) =
      (readMembers Char.toNat steps cs).map fun (members, rest) =>
        ((OrderedMap.ofEntries members : Mapping).toValue, rest) := by
  have blank := h.skip
  obtain ⟨c, cs, rfl, _, _, noEnd⟩ := h
  rw [readValue, blank]
  split
  · exact absurd (List.cons.inj ‹_›).1 noEnd
  · cases readMembers Char.toNat steps (c :: cs) <;> rfl

theorem readsBack_list {xs : List Value} {ts : List (List Char)} (h : List.Forall₂ ReadsBack xs ts) :
    ReadsBack (.list xs) ('[' :: separated ts ++ [']']) := by
  refine ⟨⟨'[', _, rfl, rfl, by decide, by decide⟩, fun steps rest enough _ => ?_⟩
  obtain ⟨steps, rfl⟩ := Nat.exists_eq_add_one_of_ne_zero (Nat.ne_zero_of_lt enough)
  rw [List.length_append, List.length_cons, List.length_singleton] at enough
  have start : '[' :: separated ts ++ [']'] ++ rest = '[' :: (separated ts ++ ']' :: rest) := by simp
  rw [start]
  cases h with
  | nil => rfl
  | @cons x t xs ts first others =>
    have opens := (first.opens.separated ts).append (']' :: rest)
    rw [readValue_list opens, readItems_separated first others _ (by omega) rest]
    rfl

theorem readsBack_dict {es : Entries} {ts : List (List Char)}
    (distinct : es.Pairwise fun a b => (a.1 == b.1) = false)
    (h : List.Forall₂ MemberReadsBack es ts) :
    ReadsBack (.dict es) ('\x7b' :: separated ts ++ ['\x7d']) := by
  refine ⟨⟨'\x7b', _, rfl, rfl, by decide, by decide⟩, fun steps rest enough _ => ?_⟩
  obtain ⟨steps, rfl⟩ := Nat.exists_eq_add_one_of_ne_zero (Nat.ne_zero_of_lt enough)
  rw [List.length_append, List.length_cons, List.length_singleton] at enough
  have start : '\x7b' :: separated ts ++ ['\x7d'] ++ rest = '\x7b' :: (separated ts ++ '\x7d' :: rest) := by
    simp
  have kept : (OrderedMap.ofEntries es : Mapping).entries = es :=
    OrderedMap.entries_insertAll (m := OrderedMap.empty) distinct
  rw [start]
  cases h with
  | nil => rfl
  | @cons e t es ts first others =>
    have opens := (first.opens.separated ts).append ('\x7d' :: rest)
    rw [readValue_dict opens, readMembers_separated first others _ (by omega) rest]
    exact congrArg (fun es => Except.ok (Value.dict es, rest)) kept

/-- What is written for a value is read back. -/
theorem readsBack_of_write {v : Value} (h : v.IsJson) {t : List Char} (written : write v = .ok t) :
    ReadsBack v t := by
  induction h generalizing t with
  | null => exact Except.ok.inj written ▸ readsBack_null
  | bool b => exact Except.ok.inj written ▸ readsBack_bool b
  | int n =>
    rw [write, writeInteger] at written
    split at written
    · cases written
    · rename_i fits
      exact Except.ok.inj written ▸ readsBack_integer (Bool.eq_false_iff.2 fits)
  | text s => exact Except.ok.inj written ▸ readsBack_text s
  | list _ ih =>
    rw [write, bind_eq_ok] at written
    obtain ⟨ts, texts, written⟩ := written
    rw [writeItems_eq_ok] at texts
    rw [← pure_eq_ok.1 written]
    exact readsBack_list (forall₂_of_mem texts fun x here _ => ih x here)
  | dict keys distinct _ ih =>
    rw [write, bind_eq_ok] at written
    obtain ⟨ts, texts, written⟩ := written
    rw [writeMembers_eq_ok] at texts
    rw [← pure_eq_ok.1 written]
    refine readsBack_dict distinct ?_
    refine forall₂_of_mem texts ?_
    -- Only keys that are texts are read back as they were; others are written as texts.
    rintro ⟨_, v⟩ here _ ⟨key, value, hkey, hvalue, rfl⟩
    obtain ⟨s, rfl⟩ := keys _ here
    obtain rfl := pure_eq_ok.1 hkey
    exact ⟨s, value, rfl, ih _ here hvalue, rfl⟩

/-! Which values have a text. -/

private theorem write_list_isOk {xs : List Value} :
    (∃ t, write (.list xs) = .ok t) ↔ ∀ x ∈ xs, ∃ t, write x = .ok t := by
  rw [← exists_forall₂_iff]
  simp only [write, bind_eq_ok, writeItems_eq_ok, pure_eq_ok]
  exact ⟨fun ⟨_, ts, h, _⟩ => ⟨ts, h⟩, fun ⟨ts, h⟩ => ⟨_, ts, h, rfl⟩⟩

private theorem write_dict_isOk {es : Entries} (keys : ∀ e ∈ es, ∃ s, e.1 = .text s) :
    (∃ t, write (.dict es) = .ok t) ↔ ∀ e ∈ es, ∃ t, write e.2 = .ok t := by
  have member : ∀ e ∈ es, (∃ t, WritesMember e t) ↔ ∃ t, write e.2 = .ok t := by
    rintro ⟨_, v⟩ here
    obtain ⟨s, rfl⟩ := keys _ here
    exact ⟨fun ⟨_, _, value, _, h, _⟩ => ⟨value, h⟩, fun ⟨value, h⟩ => ⟨_, _, value, rfl, h, rfl⟩⟩
  rw [← forall₂_congr member, ← exists_forall₂_iff]
  simp only [write, bind_eq_ok, writeMembers_eq_ok, pure_eq_ok]
  exact ⟨fun ⟨_, ts, h, _⟩ => ⟨ts, h⟩, fun ⟨ts, h⟩ => ⟨_, ts, h, rfl⟩⟩

theorem write_isOk_iff {v : Value} (h : v.IsJson) :
    (∃ t, write v = .ok t) ↔ ∀ n, Value.int n ∈ v.inner → Number.isOverlong n = false := by
  induction h with
  | null => simp [write, Value.inner, pure_eq_ok]
  | bool b => simp [write, Value.inner, pure_eq_ok]
  | text s => simp [write, Value.inner, pure_eq_ok]
  | int n =>
    simp only [write, writeInteger, Value.inner, List.mem_singleton, Value.int.injEq, forall_eq]
    cases Number.isOverlong n with
    | true => simp [throw, throwThe, MonadExceptOf.throw]
    | false => simp [pure_eq_ok]
  | @list xs _ ih =>
    rw [write_list_isOk, forall₂_congr ih]
    simp only [Value.inner, List.mem_cons, reduceCtorEq, false_or, Value.mem_innerItems]
    exact ⟨fun all n ⟨x, here, inside⟩ => all x here n inside,
      fun all x here n inside => all n ⟨x, here, inside⟩⟩
  | @dict es keys _ _ ih =>
    rw [write_dict_isOk keys, forall₂_congr ih]
    simp only [Value.inner, List.mem_cons, reduceCtorEq, false_or, Value.mem_innerEntries]
    exact ⟨fun all n ⟨e, here, inside⟩ => all e here n inside,
      fun all e here n inside => all n ⟨e, here, inside⟩⟩

theorem render_isOk_iff {v : Value} (h : v.IsJson) :
    (∃ s, render v = .ok s) ↔ ∀ n, Value.int n ∈ v.inner → Number.isOverlong n = false := by
  rw [← write_isOk_iff h]
  simp only [render, map_eq_ok]
  exact ⟨fun ⟨_, t, ht, _⟩ => ⟨t, ht⟩, fun ⟨t, ht⟩ => ⟨_, t, ht, rfl⟩⟩

/-! Texts and their bytes. -/

theorem isPlain_of_mem_separated {ts : List (List Char)} (h : ∀ t ∈ ts, ∀ c ∈ t, IsPlain c) :
    ∀ c ∈ separated ts, IsPlain c := by
  induction ts with
  | nil => exact fun _ here => nomatch here
  | cons t ts ih =>
    rw [List.forall_mem_cons] at h
    cases ts with
    | nil => exact h.1
    | cons u us =>
      have all : separated (t :: u :: us) = t ++ ([',', ' '] ++ separated (u :: us)) := by
        simp [separated]
      have comma : ∀ c ∈ [',', ' '], IsPlain c := by simp [IsPlain]
      rw [all, List.forall_mem_append, List.forall_mem_append]
      exact ⟨h.1, comma, ih h.2⟩

private theorem isPlain_of_mem_integer (n : Int) : ∀ c ∈ (toString n).toList, IsPlain c := by
  have digits : ∀ c ∈ Number.digitsOf n.natAbs, IsPlain c := by
    intro c here
    have range := isDigit_digitsOf _ c here
    simp only [Char.isDigit, Bool.and_eq_true, decide_eq_true_eq, ge_iff_le, UInt32.le_iff_toNat_le]
      at range
    exact ⟨Nat.le_trans (by decide) range.1, Nat.le_trans range.2 (by decide)⟩
  rw [toList_integer]
  split
  · exact digits
  · exact List.forall_mem_cons.2 ⟨by decide, digits⟩

private theorem isPlain_of_mem_write {v : Value} (h : v.IsJson) {t : List Char} (written : write v = .ok t) :
    ∀ c ∈ t, IsPlain c := by
  induction h generalizing t with
  | null =>
    obtain rfl := pure_eq_ok.1 written
    have letters : ∀ c ∈ ['n', 'u', 'l', 'l'], IsPlain c := by simp [IsPlain]
    exact letters
  | bool b =>
    obtain rfl := pure_eq_ok.1 written
    have letters : ∀ c ∈ ['t', 'r', 'u', 'e'] ++ ['f', 'a', 'l', 's', 'e'], IsPlain c := by simp [IsPlain]
    rw [List.forall_mem_append] at letters
    cases b with
    | true => exact letters.1
    | false => exact letters.2
  | int n =>
    rw [write, writeInteger] at written
    split at written
    · cases written
    · exact pure_eq_ok.1 written ▸ isPlain_of_mem_integer n
  | text s =>
    obtain rfl := pure_eq_ok.1 written
    exact fun _ => isPlain_of_mem_writeText
  | list _ ih =>
    rw [write, bind_eq_ok] at written
    obtain ⟨ts, texts, written⟩ := written
    rw [writeItems_eq_ok] at texts
    have items := isPlain_of_mem_separated (forall_of_forall₂ texts fun x here _ => ih x here)
    rw [← pure_eq_ok.1 written, List.cons_append, List.forall_mem_cons, List.forall_mem_append]
    exact ⟨by decide, items, by simp [IsPlain]⟩
  | dict keys distinct _ ih =>
    rw [write, bind_eq_ok] at written
    obtain ⟨ts, texts, written⟩ := written
    rw [writeMembers_eq_ok] at texts
    have members := isPlain_of_mem_separated (forall_of_forall₂ texts ?_)
    · rw [← pure_eq_ok.1 written, List.cons_append, List.forall_mem_cons, List.forall_mem_append]
      exact ⟨by decide, members, by simp [IsPlain]⟩
    · rintro ⟨_, v⟩ here _ ⟨key, value, hkey, hvalue, rfl⟩
      obtain ⟨s, rfl⟩ := keys _ here
      obtain rfl := pure_eq_ok.1 hkey
      rw [List.forall_mem_append, List.forall_mem_cons, List.forall_mem_cons]
      exact ⟨fun _ => isPlain_of_mem_writeText, by decide, by decide, ih _ here hvalue⟩

private theorem parseBy_write {v : Value} (h : v.IsJson) {t : List Char} (written : write v = .ok t) :
    parseBy Char.toNat t = .ok v := by
  have back := readsBack_of_write h written
  have read := back.reads (2 * t.length + 2) [] (by omega) (fun _ here => nomatch here)
  rw [List.append_nil] at read
  rw [parseBy, readDocument, back.opens.skip, read]
  rfl

theorem parse_render {v : Value} (h : v.IsJson) {s : String} (rendered : render v = .ok s) :
    parse s.toList = .ok v ∧ parseBytes (Text.toUtf8 s) = .ok v := by
  obtain ⟨t, written, rfl⟩ := map_eq_ok.1 rendered
  have plain := isPlain_of_mem_write h written
  rw [String.toList_ofList, parse_plain plain, parseBytes_plain plain, parseBy_write h written]
  exact ⟨rfl, rfl⟩

end Json

end RecordMapper
