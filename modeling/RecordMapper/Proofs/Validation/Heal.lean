import RecordMapper.Function.Catalogue
import RecordMapper.Proofs.Validation.SinglePass

/-!
Healing is one pass. Validation that starts over after each heal does what a single pass over the
fields does, and it starts over once for each field that has to be healed at the most.
-/
namespace RecordMapper.Validation

variable (fns : Functions)

/-- Validation that is repeated as long as it reports an undefined field for the first time. It is told
which fields have been healed and how often the object is validated, and nothing bounds how often. -/
inductive Passes (assign : Value → Value → Value) (fields : Value) :
    List Value → Value → Nat → Except Error Unit → Value → Prop
  | passed {healed : List Value} {obj : Value} (h : validateObject fns obj fields = .ok ()) :
      Passes assign fields healed obj 1 (.ok ()) obj
  | failed {healed : List Value} {obj : Value} {e : Error}
      (h : validateObject fns obj fields = .error e)
      (final : ∀ key, e.undefinedKey? = some key → key.isIn healed = true) :
      Passes assign fields healed obj 1 (.error e) obj
  | again {healed : List Value} {obj after : Value} {e : Error} {key : Value} {n : Nat}
      {outcome : Except Error Unit} (h : validateObject fns obj fields = .error e)
      (undefined : e.undefinedKey? = some key) (first : key.isIn healed = false)
      (rest : Passes assign fields (key :: healed) (assign obj key) n outcome after) :
      Passes assign fields healed obj (n + 1) outcome after

theorem Passes.pos {assign : Value → Value → Value} {fields : Value} {healed : List Value}
    {obj after : Value} {n : Nat} {outcome : Except Error Unit}
    (h : Passes fns assign fields healed obj n outcome after) : 0 < n := by
  cases h <;> omega

theorem healWith_of_passes {assign : Value → Value → Value} {fields : Value} {healed : List Value}
    {obj after : Value} {n : Nat} {outcome : Except Error Unit}
    (h : Passes fns assign fields healed obj n outcome after) {bound : Nat} (enough : n ≤ bound + 1) :
    healWith fns assign fields bound healed obj = (outcome, after) := by
  induction h generalizing bound with
  | passed h =>
    cases bound with
    | zero => rw [healWith, h]
    | succ bound => rw [healWith, h]
  | @failed healed obj e h final =>
    cases bound with
    | zero => rw [healWith, h]
    | succ bound =>
      simp only [healWith, h]
      cases undefined : e.undefinedKey? with
      | none => rfl
      | some key => simp only [if_pos (final key undefined)]
  | again h undefined first rest ih =>
    cases bound with
    | zero =>
      have := Passes.pos fns rest
      omega
    | succ bound =>
      simp only [healWith, h, undefined, first, Bool.false_eq_true, if_false]
      exact ih (by omega)

private theorem setNull_toValue (m : Mapping) (key : Value) :
    setNull m.toValue key = (m.insert key .null).toValue := by
  simp [setNull, OrderedMap.toValue, Value.mapping?]

private theorem undefinedKey?_eq_none {e : Error} (h : e.isUndefined = false) : e.undefinedKey? = none := by
  cases e with
  | violation v =>
    obtain ⟨breach, value, key⟩ := v
    cases breach with
    | undefined => cases h
    | _ => rfl
  | _ => rfl

private theorem undefinedKey?_undefinedAt {key : Value} (text : key.isText) :
    (undefinedAt key).undefinedKey? = some key := by
  cases key with
  | null => cases text
  | _ => rfl

theorem validateField_congr {m m' : Mapping} {field : Value × Value} (text : field.1.isText)
    (h : m.get? field.1 = m'.get? field.1) :
    validateField fns m.toValue field.1 field.2 = validateField fns m'.toValue field.1 field.2 := by
  rw [validateField_eq fns text, validateField_eq fns text, needsNull_congr h, checkField_congr fns h]

theorem validateFields_append {obj : Value} {done todo : List (Value × Value)}
    (valid : ∀ f ∈ done, validateField fns obj f.1 f.2 = .ok ()) :
    validateFields fns obj (done ++ todo) = validateFields fns obj todo := by
  induction done with
  | nil => rfl
  | cons field done ih =>
    rw [List.forall_mem_cons] at valid
    rw [List.cons_append, validateFields, valid.1]
    exact ih valid.2

/-- The invariant of healing: the fields in front pass, and what has yet to be healed was not healed
before. -/
structure Halfway (m : Mapping) (healed : List Value) (done todo : List (Value × Value)) : Prop where
  named : WellNamed (done ++ todo)
  valid : ∀ f ∈ done, validateField fns m.toValue f.1 f.2 = .ok ()
  fresh : ∀ f ∈ todo, needsNull m f → f.1.isIn healed = false

section

variable {fns} {m : Mapping} {healed : List Value} {done todo : List (Value × Value)}
  {field : Value × Value}

theorem Halfway.text (h : Halfway fns m healed done (field :: todo)) : field.1.isText :=
  h.named.texts field (by simp)

/-- Validation comes to the first field that is not known to pass. -/
theorem Halfway.validateObject_eq (h : Halfway fns m healed done todo) :
    validateObject fns m.toValue (.dict (done ++ todo)) = validateFields fns m.toValue todo :=
  validateFields_append fns h.valid

theorem Halfway.move (h : Halfway fns m healed done (field :: todo))
    (pass : validateField fns m.toValue field.1 field.2 = .ok ()) :
    Halfway fns m healed (done ++ [field]) todo where
  named := by simpa using h.named
  valid f hf := by
    rcases List.mem_append.1 hf with hf | hf
    · exact h.valid f hf
    · rw [List.mem_singleton.1 hf]
      exact pass
  fresh f hf := h.fresh f (List.mem_cons_of_mem _ hf)

theorem Halfway.others (h : Halfway fns m healed done (field :: todo)) :
    (∀ f ∈ done, field.1 ≠ f.1) ∧ ∀ f ∈ todo, field.1 ≠ f.1 := by
  obtain ⟨_, later, across⟩ := List.pairwise_append.1 h.named.distinct
  exact ⟨fun f hf => (across f hf field (List.mem_cons_self ..)).symm, (List.pairwise_cons.1 later).1⟩

theorem Halfway.heal (h : Halfway fns m healed done (field :: todo)) :
    Halfway fns (heal m field) (field.1 :: healed) done (field :: todo) where
  named := h.named
  valid f hf := by
    rw [← h.valid f hf]
    have text := h.named.texts f (List.mem_append_left _ hf)
    exact validateField_congr fns text (get?_heal_of_ne h.text (h.others.1 f hf))
  fresh f hf needs := by
    rcases List.mem_cons.1 hf with rfl | hf
    · rw [needsNull_heal h.text] at needs
      cases needs
    · have other := h.others.2 f hf
      rw [needsNull_congr (get?_heal_of_ne h.text other)] at needs
      have differs : (f.1 == field.1) = false := by
        rw [Bool.eq_false_iff, ne_eq, Value.beq_text_iff h.text]
        exact other.symm
      rw [Value.isIn, List.any_cons, differs]
      exact h.fresh f (List.mem_cons_of_mem _ hf) needs

end

/-- From halfway on, validation that is repeated does what one pass over the remaining fields does. -/
theorem passes_of_halfway {m : Mapping} {healed : List Value} {done todo : List (Value × Value)}
    (h : Halfway fns m healed done todo) :
    ∃ n ≤ todo.countP (needsNull m) + 1,
      Passes fns setNull (.dict (done ++ todo)) healed m.toValue n (singlePass fns m todo).1
        (singlePass fns m todo).2.toValue := by
  induction todo generalizing m healed done with
  | nil => exact ⟨1, by simp, .passed h.validateObject_eq⟩
  | cons field todo ih =>
    -- The case of a field that does not have to be healed, before or after the other case.
    have settled {m : Mapping} {healed : List Value} (h : Halfway fns m healed done (field :: todo))
        (there : needsNull m field = false) :
        ∃ n ≤ todo.countP (needsNull m) + 1,
          Passes fns setNull (.dict (done ++ field :: todo)) healed m.toValue n
            (singlePass fns m (field :: todo)).1 (singlePass fns m (field :: todo)).2.toValue := by
      have same : Validation.heal m field = m := by rw [Validation.heal, there]; rfl
      have here := validateField_of_needsNull fns h.text there
      rw [singlePass, same]
      cases check : checkField fns m field with
      | ok u =>
        have moved := ih (h.move (here.trans check))
        rwa [List.append_assoc] at moved
      | error e =>
        have failed : validateObject fns m.toValue (.dict (done ++ field :: todo)) = .error e := by
          rw [h.validateObject_eq, validateFields, here, check]
          rfl
        have final := undefinedKey?_eq_none (definite_checkField fns m field e check)
        exact ⟨1, by simp, .failed failed fun key found => by rw [final] at found; cases found⟩
    cases needs : needsNull m field with
    | false =>
      rw [List.countP_cons, needs]
      exact settled h needs
    | true =>
      obtain ⟨n, bound, passes⟩ := settled h.heal (needsNull_heal h.text)
      have failed : validateObject fns m.toValue (.dict (done ++ field :: todo)) =
          .error (undefinedAt field.1) := by
        rw [h.validateObject_eq, validateFields, validateField_eq fns h.text, needs]
        rfl
      have assigned : setNull m.toValue field.1 = (heal m field).toValue := by
        rw [setNull_toValue, heal, needs]
        rfl
      have once : heal (heal m field) field = heal m field := by
        rw [heal, needsNull_heal h.text]
        rfl
      have same : singlePass fns (heal m field) (field :: todo) = singlePass fns m (field :: todo) := by
        rw [singlePass, singlePass, once]
      have count : todo.countP (needsNull (heal m field)) = todo.countP (needsNull m) :=
        List.countP_congr fun f hf => by
          rw [needsNull_congr (get?_heal_of_ne h.text (h.others.2 f hf))]
      rw [same, ← assigned] at passes
      refine ⟨n + 1, ?_, .again failed (undefinedKey?_undefinedAt h.text)
        (h.fresh field (List.mem_cons_self ..) needs) passes⟩
      rw [List.countP_cons, needs, ← count]
      simpa using bound

theorem halfway_start (m : Mapping) {fields : List (Value × Value)} (named : WellNamed fields) :
    Halfway fns m [] [] fields :=
  ⟨named, by simp, fun f _ _ => rfl⟩

theorem normalize_eq_singlePass {m fields : Mapping} (named : WellNamed fields.entries) :
    normalize fns m.toValue fields.toValue =
      ((singlePass fns m fields.entries).1, (singlePass fns m fields.entries).2.toValue) := by
  obtain ⟨n, bound, passes⟩ := passes_of_halfway fns (halfway_start fns m named)
  apply healWith_of_passes fns passes
  exact Nat.le_trans bound (Nat.succ_le_succ List.countP_le_length)

theorem normalize_of_valid {obj fields : Value} (h : validateObject fns obj fields = .ok ()) :
    normalize fns obj fields = (.ok (), obj) :=
  healWith_of_passes fns (.passed h) (by omega)

private theorem key_of_checkField {m : Mapping} {field : Value × Value} {v : Violation Error}
    (h : checkField fns m field = .error (.violation v)) : v.key = field.1 := by
  unfold checkField at h
  split at h
  · cases check : checkRules fns _ field.2 with
    | ok u => rw [check] at h; cases h
    | error e =>
      rw [check] at h
      cases e with
      | violation w => cases h; rfl
      | _ => cases h
  · -- To be asked whether the field is required, the rules have to be a map.
    unfold isRequired valueAt? at h
    cases asked : entriesOf field.2 with
    | ok es => rw [asked] at h; cases h
    | error e =>
      rw [asked] at h
      rcases entriesOf_eq_error asked with rfl | rfl <;> cases h

/-- What a pass leaves behind when it fails: the fields in front pass, the field that fails is named,
and these are the fields that were healed. -/
private theorem failed_of_singlePass {m : Mapping} {fields : List (Value × Value)} (named : WellNamed fields)
    {e : Error} (h : (singlePass fns m fields).1 = .error e) :
    let after := (singlePass fns m fields).2
    e.isUndefined = false ∧
    ∃ before field rest, fields = before ++ field :: rest ∧
      (∀ f ∈ before, validateField fns after.toValue f.1 f.2 = .ok ()) ∧
      validateField fns after.toValue field.1 field.2 = .error e ∧
      (∀ v, e = .violation v → v.key = field.1) ∧
      (∀ f ∈ before ++ [field],
        after.get? f.1 = if needsNull m f then some .null else m.get? f.1) ∧
      ∀ f ∈ rest, after.get? f.1 = m.get? f.1 := by
  intro after
  rcases singlePass_cases fns (m := m) named with
    ⟨pass, _⟩ | ⟨before, field, rest, e', rfl, pass, valid, failed⟩
  · rw [pass] at h
    cases h
  · have same : after = healAll m (before ++ [field]) := by simp only [after, pass]
    obtain rfl : e' = e := by rw [pass] at h; exact Except.error.inj h
    rw [← same] at valid failed
    have visited : WellNamed (before ++ [field]) := WellNamed.front (List.append_cons .. ▸ named)
    have settled (f : Value × Value) (hf : f ∈ before ++ [field]) :
        validateField fns after.toValue f.1 f.2 = checkField fns after f :=
      validateField_of_needsNull fns (visited.texts f hf) (same ▸ needsNull_healAll visited hf)
    refine ⟨definite_checkField fns after field _ failed, before, field, rest, rfl, ?_, ?_, ?_, ?_, ?_⟩
    · exact fun f hf => (settled f (List.mem_append_left _ hf)).trans (valid f hf)
    · exact (settled field (by simp)).trans failed
    · rintro v rfl
      exact key_of_checkField fns failed
    · exact fun f hf => same ▸ get?_healAll_of_mem visited hf
    · intro f hf
      rw [List.append_cons] at named
      have others := (List.pairwise_append.1 named.distinct).2.2
      exact same ▸ get?_healAll_of_ne visited.texts fun g hg => others g hg f hf

theorem valid_of_singlePass {m fields : Mapping} (named : WellNamed fields.entries)
    (h : (singlePass fns m fields.entries).1 = .ok ()) :
    let after := (singlePass fns m fields.entries).2
    after.keys = m.keys ∧
      (∀ f ∈ fields.entries, after.get? f.1 ≠ some .undefined) ∧
      (∀ f ∈ fields.entries, isRequired f.2 = .ok true → ∃ v, after.get? f.1 = some v ∧ v ≠ .null) ∧
      normalize fns after.toValue fields.toValue = (.ok (), after.toValue) := by
  intro after
  rcases singlePass_cases fns (m := m) named with ⟨pass, valid⟩ | ⟨before, field, rest, e, _, pass, _⟩
  · have same : after = healAll m fields.entries := by simp only [after, pass]
    rw [← same] at valid
    have settled (f : Value × Value) (hf : f ∈ fields.entries) : needsNull after f = false :=
      same ▸ needsNull_healAll named hf
    have present (f : Value × Value) (hf : f ∈ fields.entries) (required : isRequired f.2 = .ok true) :=
      present_of_checkField fns (settled f hf) (valid f hf) required
    refine ⟨?_, ?_, ?_, ?_⟩
    · rw [same]
      refine keys_healAll named fun f hf needs => ?_
      have accepted := (singlePass_eq_ok fns named).1 h f hf
      rw [undefined_of_accepted fns (named.texts f hf) accepted needs]
      rfl
    · intro f hf found
      have := settled f hf
      rw [needsNull, found] at this
      cases this
    · intro f hf required
      obtain ⟨v, found, there⟩ := present f hf required
      refine ⟨v, found, ?_⟩
      rintro rfl
      cases there
    · apply normalize_of_valid
      have each (f : Value × Value) (hf : f ∈ fields.entries) :=
        (validateField_of_needsNull fns (named.texts f hf) (settled f hf)).trans (valid f hf)
      change validateFields fns after.toValue fields.entries = .ok ()
      rw [← List.append_nil fields.entries, validateFields_append fns each]
      rfl
  · rw [pass] at h
    cases h

theorem get?_singlePass {m : Mapping} {fields : List (Value × Value)} (named : WellNamed fields)
    {k : Value} (settled : ∀ f ∈ fields, f.1 = k → needsNull m f = false) :
    (singlePass fns m fields).2.get? k = m.get? k := by
  rcases singlePass_cases fns (m := m) named with ⟨pass, _⟩ | ⟨before, field, rest, e, rfl, pass, _⟩
  · rw [pass]
    exact get?_healAll_of_settled named settled
  · rw [pass]
    rw [List.append_cons] at named settled
    exact get?_healAll_of_settled named.front fun f hf => settled f (List.mem_append_left _ hf)

theorem wellNamed_of_texts {fields : Mapping} (texts : ∀ k ∈ fields.keys, k.isText) :
    WellNamed fields.entries where
  texts f hf := texts f.1 (List.mem_map_of_mem hf)
  distinct := by
    refine fields.distinct.imp_of_mem fun {f g} hf _ differ same => ?_
    have text := texts f.1 (List.mem_map_of_mem hf)
    rw [← same, (Value.text_beq_iff text _).2 rfl] at differ
    cases differ

/-- Healing an object is one pass over its fields. It takes one validation more than there are fields
to heal at the most, and no report of an undefined field comes out. What is not declared, and what is
declared and not undefined, stays as it is. When it fails, the fields up to the one that fails are
healed and no others; when it succeeds, the object is valid as it is left. -/
theorem normalize_heals (m fields : Mapping) (texts : ∀ k ∈ fields.keys, k.isText) :
    let outcome := (singlePass fns m fields.entries).1
    let after := (singlePass fns m fields.entries).2
    (∃ n ≤ fields.entries.countP (needsNull m) + 1,
      Passes fns setNull fields.toValue [] m.toValue n outcome after.toValue) ∧
    normalize fns m.toValue fields.toValue = (outcome, after.toValue) ∧
    (∀ k, (k ∉ fields.keys ∨ ∃ v, m.get? k = some v ∧ v ≠ .undefined) →
      after.get? k = m.get? k) ∧
    (∀ e, outcome = .error e →
      e.isUndefined = false ∧
      ∃ before field rest, fields.entries = before ++ field :: rest ∧
        (∀ f ∈ before, validateField fns after.toValue f.1 f.2 = .ok ()) ∧
        validateField fns after.toValue field.1 field.2 = .error e ∧
        (∀ v, e = .violation v → v.key = field.1) ∧
        (∀ f ∈ before ++ [field],
          after.get? f.1 = if needsNull m f then some .null else m.get? f.1) ∧
        ∀ f ∈ rest, after.get? f.1 = m.get? f.1) ∧
    (outcome = .ok () →
      after.keys = m.keys ∧
      (∀ f ∈ fields.entries, after.get? f.1 ≠ some .undefined) ∧
      (∀ f ∈ fields.entries, isRequired f.2 = .ok true →
        ∃ v, after.get? f.1 = some v ∧ v ≠ .null) ∧
      normalize fns after.toValue fields.toValue = (.ok (), after.toValue)) := by
  intro outcome after
  have named := wellNamed_of_texts texts
  refine ⟨passes_of_halfway fns (halfway_start fns m named), normalize_eq_singlePass fns named,
    fun k untouched => get?_singlePass fns named fun f hf same => ?_,
    fun e => failed_of_singlePass fns named, valid_of_singlePass fns named⟩
  subst same
  rcases untouched with undeclared | ⟨v, value, there⟩
  · exact absurd (List.mem_map_of_mem hf) undeclared
  · rw [needsNull, value]
    cases v with
    | undefined => exact absurd rfl there
    | _ => rfl

def ageless : Mapping := .ofFields [("name", .text "ada"), ("age", .undefined)]

def userFields : Mapping :=
  .ofFields [("name", .dict [(.text "required", .bool true)]), ("age", .dict [(.text "min", .int 0)]),
    ("nickname", .dict [(.text "type", .text "string")])]

theorem normalize_heals_ageless :
    let after := ageless.insert (.text "age") .null
    (∀ k ∈ userFields.keys, k.isText) ∧
    (∃ n ≤ 2, Passes Function.catalogue setNull userFields.toValue [] ageless.toValue n (.ok ())
      after.toValue) ∧
    normalize Function.catalogue ageless.toValue userFields.toValue = (.ok (), after.toValue) ∧
    after.get? (.text "name") = ageless.get? (.text "name") ∧
    after.keys = ageless.keys ∧
    normalize Function.catalogue after.toValue userFields.toValue = (.ok (), after.toValue) := by
  intro after
  have texts : ∀ k ∈ userFields.keys, k.isText := by decide
  obtain ⟨passes, normalized, frame, _, success⟩ :=
    normalize_heals Function.catalogue ageless userFields texts
  obtain ⟨keys, _, _, again⟩ := success rfl
  have name : ageless.get? (.text "name") = some (.text "ada") := rfl
  exact ⟨texts, passes, normalized, frame _ (.inr ⟨_, name, by simp⟩), keys, again⟩

end RecordMapper.Validation
