import RecordMapper.Proofs.Validation.Rule
import RecordMapper.Proofs.Value.Text
import RecordMapper.Validation.Heal

/-!
One pass over the fields of an object. Each field is healed if it has to be, then its rules are
checked, and the first failure ends the pass. Fields do not disturb one another, as each has a name
of its own.
-/
namespace RecordMapper.Validation

variable (fns : Functions) (m : Mapping)

/-- Has the field to be healed? It is undefined, or it is absent although it is required. -/
def needsNull (field : Value × Value) : Bool :=
  match m.get? field.1 with
  | some .undefined => true
  | some _ => false
  | none => isRequired field.2 matches .ok true

def heal (field : Value × Value) : Mapping :=
  if needsNull m field then m.insert field.1 .null else m

def checkRules (v rules : Value) : Except Error Unit := do
  checkEntries fns v (← entriesOf rules)

/-- Checks the rules of a field on the value that the object has for it. An absent field is skipped;
its rules are only asked whether it is required. -/
def checkField (field : Value × Value) : Except Error Unit :=
  match m.get? field.1 with
  | some v => (checkRules fns v field.2).mapError (Error.atKey field.1)
  | none => (isRequired field.2).map fun _ => ()

/-- One pass from left to right: how it ends, and the object as it is left. -/
def singlePass (m : Mapping) : List (Value × Value) → Except Error Unit × Mapping
  | [] => (.ok (), m)
  | field :: fields =>
    match checkField fns (heal m field) field with
    | .ok () => singlePass (heal m field) fields
    | .error e => (.error e, heal m field)

def undefinedAt (key : Value) : Error :=
  .violation { breach := .undefined, value := .undefined, key }

/-! A field by itself. -/

section

variable {m} {field : Value × Value} (named : field.1.isText)
include named

/-- Validation of a field that has to be healed reports it as undefined; of any other field it checks
the rules. -/
theorem validateField_eq :
    validateField fns m.toValue field.1 field.2 =
      if needsNull m field then .error (undefinedAt field.1) else checkField fns m field := by
  have value : valueAt? m.toValue field.1 = .ok (m.get? field.1) := rfl
  rw [validateField, Value.memberOf_dict_of_isText named, value, needsNull, checkField]
  cases m.get? field.1 with
  | some v => cases v <;> rfl
  | none =>
    change (do if ← isRequired field.2 then .error (undefinedAt field.1) else pure ()) = _
    cases isRequired field.2 with
    | error e => rfl
    | ok required => cases required <;> rfl

theorem validateField_of_needsNull (there : needsNull m field = false) :
    validateField fns m.toValue field.1 field.2 = checkField fns m field := by
  rw [validateField_eq fns named, there]
  rfl

theorem get?_heal_of_ne {k : Value} (other : field.1 ≠ k) : (heal m field).get? k = m.get? k := by
  unfold heal
  split
  · have differs : (field.1 == k) = false := by
      rw [Bool.eq_false_iff, ne_eq, Value.text_beq_iff named]
      exact other
    refine OrderedMap.get?_insert_of_ne m .null (fun x hx => ?_) differs
    rw [Bool.eq_false_iff, ne_eq, Value.beq_text_iff named]
    rintro rfl
    rw [hx] at differs
    cases differs
  · rfl

theorem get?_heal_self : (heal m field).get? field.1 =
    if needsNull m field then some .null else m.get? field.1 := by
  unfold heal
  split
  · exact OrderedMap.get?_insert_self m .null ((Value.text_beq_iff named _).2 rfl)
  · rfl

theorem needsNull_heal : needsNull (heal m field) field = false := by
  cases found : needsNull m field with
  | true => rw [needsNull, get?_heal_self named, found]; rfl
  | false => rw [heal, found]; exact found

end

theorem needsNull_congr {m m' : Mapping} {field : Value × Value}
    (h : m.get? field.1 = m'.get? field.1) : needsNull m field = needsNull m' field := by
  rw [needsNull, needsNull, h]

theorem checkField_congr {m m' : Mapping} {field : Value × Value}
    (h : m.get? field.1 = m'.get? field.1) : checkField fns m field = checkField fns m' field := by
  rw [checkField, checkField, h]

private theorem isRequired_of_needsNull {m : Mapping} {field : Value × Value} (absent : m.get? field.1 = none)
    (h : needsNull m field) : isRequired field.2 = .ok true := by
  rw [needsNull, absent] at h
  dsimp only at h
  split at h
  · assumption
  · cases h

private theorem definite_isRequired (rules : Value) : Definite (isRequired rules) := by
  have entry : Definite (valueAt? rules (.text Rule.required.name)) :=
    FailsOnly.bind (definite_entriesOf rules) fun _ => FailsOnly.ok _
  exact FailsOnly.bind entry fun _ => FailsOnly.ok _

private theorem definite_checkRules (v rules : Value) : Definite (checkRules fns v rules) :=
  FailsOnly.bind (definite_entriesOf rules) fun es => definite_checkEntries fns v es

private theorem isUndefined_atKey (key : Value) (e : Error) : (e.atKey key).isUndefined = e.isUndefined := by
  cases e with
  | violation v => obtain ⟨breach, value, k⟩ := v; cases breach <;> rfl
  | _ => rfl

theorem definite_checkField (field : Value × Value) : Definite (checkField fns m field) := by
  unfold checkField
  cases m.get? field.1 with
  | some v =>
    refine FailsOnly.mapError (definite_checkRules fns v field.2) fun e he => ?_
    rw [isUndefined_atKey, he]
  | none => exact FailsOnly.map (definite_isRequired field.2)

/-! Several fields with names of their own. -/

structure WellNamed (fields : List (Value × Value)) : Prop where
  texts : ∀ field ∈ fields, field.1.isText
  distinct : fields.Pairwise fun f g => f.1 ≠ g.1

theorem WellNamed.front {fields more : List (Value × Value)} (h : WellNamed (fields ++ more)) :
    WellNamed fields :=
  ⟨fun f hf => h.texts f (List.mem_append_left _ hf), (List.pairwise_append.1 h.distinct).1⟩

theorem WellNamed.tail {field : Value × Value} {fields : List (Value × Value)}
    (h : WellNamed (field :: fields)) : WellNamed fields :=
  ⟨fun f hf => h.texts f (List.mem_cons_of_mem _ hf), (List.pairwise_cons.1 h.distinct).2⟩

def healAll (m : Mapping) (fields : List (Value × Value)) : Mapping := fields.foldl heal m

theorem get?_healAll_of_ne {m : Mapping} {fields : List (Value × Value)} {k : Value}
    (texts : ∀ f ∈ fields, f.1.isText) (other : ∀ f ∈ fields, f.1 ≠ k) :
    (healAll m fields).get? k = m.get? k := by
  induction fields generalizing m with
  | nil => rfl
  | cons field fields ih =>
    rw [List.forall_mem_cons] at texts other
    change (healAll (heal m field) fields).get? k = _
    rw [ih texts.2 other.2, get?_heal_of_ne texts.1 other.1]

theorem get?_healAll_of_mem {m : Mapping} {fields : List (Value × Value)} (named : WellNamed fields)
    {field : Value × Value} (h : field ∈ fields) :
    (healAll m fields).get? field.1 = if needsNull m field then some .null else m.get? field.1 := by
  induction fields generalizing m with
  | nil => cases h
  | cons first fields ih =>
    have later := named.tail
    have text := named.texts first (List.mem_cons_self ..)
    have others := (List.pairwise_cons.1 named.distinct).1
    change (healAll (heal m first) fields).get? field.1 = _
    rcases List.mem_cons.1 h with rfl | h
    · rw [get?_healAll_of_ne later.texts (fun f hf => (others f hf).symm), get?_heal_self text]
    · have same := get?_heal_of_ne (m := m) text (others field h)
      rw [ih later h, needsNull_congr same, same]

theorem get?_healAll_of_settled {m : Mapping} {fields : List (Value × Value)} (named : WellNamed fields)
    {k : Value} (settled : ∀ f ∈ fields, f.1 = k → needsNull m f = false) :
    (healAll m fields).get? k = m.get? k := by
  by_cases declared : ∃ f ∈ fields, f.1 = k
  · obtain ⟨f, hf, rfl⟩ := declared
    rw [get?_healAll_of_mem named hf, settled f hf rfl]
    rfl
  · exact get?_healAll_of_ne named.texts fun f hf same => declared ⟨f, hf, same⟩

theorem needsNull_healAll {m : Mapping} {fields : List (Value × Value)} (named : WellNamed fields)
    {field : Value × Value} (h : field ∈ fields) : needsNull (healAll m fields) field = false := by
  have value := get?_healAll_of_mem (m := m) named h
  cases found : needsNull m field with
  | true => rw [needsNull, value, found]; rfl
  | false =>
    rw [found] at value
    rw [needsNull_congr value, found]

/-- A pass visits fields up to the first one that fails and heals what it visits. -/
theorem singlePass_cases {m : Mapping} {fields : List (Value × Value)} (named : WellNamed fields) :
    (singlePass fns m fields = (.ok (), healAll m fields) ∧
      ∀ f ∈ fields, checkField fns (healAll m fields) f = .ok ()) ∨
    ∃ before field rest e, fields = before ++ field :: rest ∧
      singlePass fns m fields = (.error e, healAll m (before ++ [field])) ∧
      (∀ f ∈ before, checkField fns (healAll m (before ++ [field])) f = .ok ()) ∧
      checkField fns (healAll m (before ++ [field])) field = .error e := by
  induction fields generalizing m with
  | nil => exact .inl ⟨rfl, fun f hf => nomatch hf⟩
  | cons first fields ih =>
    have others := (List.pairwise_cons.1 named.distinct).1
    -- Later fields have other names, so that the check of this one stays as it is.
    have kept (visited : List (Value × Value)) (sub : visited ⊆ fields) :
        checkField fns (healAll (heal m first) visited) first = checkField fns (heal m first) first :=
      checkField_congr fns (get?_healAll_of_ne (fun f hf => named.tail.texts f (sub hf))
        fun f hf => (others f (sub hf)).symm)
    rw [singlePass]
    cases check : checkField fns (heal m first) first with
    | error e => exact .inr ⟨[], first, fields, e, rfl, rfl, by simp, check⟩
    | ok u =>
      rcases ih (m := heal m first) named.tail with
        ⟨pass, valid⟩ | ⟨before, field, rest, e, rfl, pass, valid, failed⟩
      · have here := (kept fields (List.Subset.refl _)).trans check
        exact .inl ⟨pass, List.forall_mem_cons.2 ⟨here, valid⟩⟩
      · have here := (kept (before ++ [field]) (by simp)).trans check
        exact .inr ⟨first :: before, field, rest, e, rfl, pass,
          List.forall_mem_cons.2 ⟨here, valid⟩, failed⟩

/-! What a field that passes is like. -/

private theorem isMissing_of_checkRules {v rules : Value} (h : checkRules fns v rules = .ok ())
    (required : isRequired rules = .ok true) : v.isMissing = false := by
  obtain ⟨es, hes, h⟩ := bind_eq_ok.1 h
  obtain ⟨entry, hentry, truth⟩ := bind_eq_ok.1 required
  rw [valueAt?, hes] at hentry
  cases found : es.find? fun e => e.1 == .text Rule.required.name with
  | none =>
    rw [← pure_eq_ok.1 hentry, found] at truth
    cases truth
  | some e =>
    rw [← pure_eq_ok.1 hentry, found] at truth
    have name : e.1 = .text Rule.required.name := by
      have := List.find?_some found
      exact (Value.beq_text_iff rfl _).1 this
    have check := (checkEntries_eq_ok fns).1 h e (List.mem_of_find?_eq_some found)
    rw [checkEntry_of_name fns name] at check
    have criterion : e.2.truthy = true := pure_eq_ok.1 truth
    cases missing : v.isMissing with
    | false => rfl
    | true =>
      rw [Rule.check_required_eq_error_iff.2 ⟨missing, criterion, rfl, rfl⟩] at check
      cases check

theorem keys_healAll {m : Mapping} {fields : List (Value × Value)} (named : WellNamed fields)
    (there : ∀ f ∈ fields, needsNull m f → (m.get? f.1).isSome) :
    (healAll m fields).keys = m.keys := by
  induction fields generalizing m with
  | nil => rfl
  | cons field fields ih =>
    have text := named.texts field (List.mem_cons_self ..)
    have others := (List.pairwise_cons.1 named.distinct).1
    rw [List.forall_mem_cons] at there
    have first : (heal m field).keys = m.keys := by
      unfold heal
      split
      · rename_i found
        rw [OrderedMap.keys_insert, OrderedMap.contains_eq_isSome, if_pos (there.1 found)]
      · rfl
    change (healAll (heal m field) fields).keys = _
    rw [ih named.tail, first]
    intro f hf
    have same := get?_heal_of_ne (m := m) text (others f hf)
    rw [needsNull_congr same, same]
    exact there.2 f hf

theorem present_of_checkField {m : Mapping} {field : Value × Value}
    (settled : needsNull m field = false) (h : checkField fns m field = .ok ())
    (required : isRequired field.2 = .ok true) : ∃ v, m.get? field.1 = some v ∧ v.isMissing = false := by
  unfold checkField at h
  unfold needsNull at settled
  cases value : m.get? field.1 with
  | none =>
    rw [value, required] at settled
    cases settled
  | some v =>
    rw [value] at h
    exact ⟨v, rfl, isMissing_of_checkRules fns (mapError_eq_ok.1 h) required⟩

/-! What a field that passes was like before. -/

/-- The field passes, once it is healed. -/
def Accepted (m : Mapping) (field : Value × Value) : Prop := checkField fns (heal m field) field = .ok ()

theorem accepted_congr {m m' : Mapping} {field : Value × Value} (text : field.1.isText)
    (h : m.get? field.1 = m'.get? field.1) : Accepted fns m field ↔ Accepted fns m' field := by
  have same : (heal m field).get? field.1 = (heal m' field).get? field.1 := by
    rw [get?_heal_self text, get?_heal_self text, needsNull_congr h, h]
  rw [Accepted, Accepted, checkField_congr fns same]

/-- Fields do not disturb one another, so that all pass exactly if each of them does. -/
theorem singlePass_eq_ok {m : Mapping} {fields : List (Value × Value)} (named : WellNamed fields) :
    (singlePass fns m fields).1 = .ok () ↔ ∀ f ∈ fields, Accepted fns m f := by
  induction fields generalizing m with
  | nil => simp [singlePass]
  | cons field fields ih =>
    have others := (List.pairwise_cons.1 named.distinct).1
    have text := named.texts field (List.mem_cons_self ..)
    have later : (∀ f ∈ fields, Accepted fns (heal m field) f) ↔ ∀ f ∈ fields, Accepted fns m f := by
      refine forall₂_congr fun f hf => ?_
      exact accepted_congr fns (named.tail.texts f hf) (get?_heal_of_ne text (others f hf))
    rw [singlePass, List.forall_mem_cons, Accepted]
    cases checkField fns (heal m field) field with
    | error e => simp
    | ok u =>
      rw [← later, ← ih named.tail]
      simp

/-- A field that passes was healed because it was undefined. If it was absent, it was healed as it is
required, and then `null` does not pass. -/
theorem undefined_of_accepted {m : Mapping} {field : Value × Value} (text : field.1.isText)
    (h : Accepted fns m field) (needs : needsNull m field) : m.get? field.1 = some .undefined := by
  cases value : m.get? field.1 with
  | none =>
    have required := isRequired_of_needsNull value needs
    obtain ⟨v, found, there⟩ := present_of_checkField fns (needsNull_heal text) h required
    rw [get?_heal_self text, needs] at found
    cases found
    cases there
  | some v =>
    rw [needsNull, value] at needs
    cases v with
    | undefined => rfl
    | _ => cases needs

end RecordMapper.Validation
