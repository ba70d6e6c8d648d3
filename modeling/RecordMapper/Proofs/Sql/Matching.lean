import RecordMapper.Proofs.Sql.Pieces

/-!
Which rows a filter matches. A filter asks of each of its columns to equal the value that is given, or
to equal a member of a value that is a collection. So a collection is never looked for as a whole, and
the statement tells: what it binds is smaller than the collection.
-/
namespace RecordMapper

namespace Value

def isCollection : Value → Bool
  | list _ | tuple _ | set _ _ => true
  | _ => false

/-- What a filter takes for equal to a value that is not `null`: the members of a collection, or the
value. -/
def choices : Value → List Value
  | list vs | tuple vs | set _ vs => vs
  | v => [v]

private theorem choices_of_single {v : Value} (single : v.isCollection = false) : v.choices = [v] := by
  cases v with
  | list | tuple | set => cases single
  | _ => rfl

theorem sizeOf_choices_lt {v : Value} (collection : v.isCollection = true) :
    sizeOf v.choices < sizeOf v := by
  cases v with
  | list vs | tuple vs | set _ vs =>
    simp only [choices, list.sizeOf_spec, tuple.sizeOf_spec, set.sizeOf_spec]
    omega
  | _ => cases collection

theorem sizeOf_choices_le (v : Value) : sizeOf v.choices ≤ sizeOf [v] := by
  cases single : v.isCollection with
  | false => exact Nat.le_of_eq (congrArg sizeOf (choices_of_single single))
  | true =>
    have smaller := sizeOf_choices_lt single
    rw [List.cons.sizeOf_spec]
    omega

theorem sizeOf_append (vs ws : List Value) : sizeOf (vs ++ ws) + 1 = sizeOf vs + sizeOf ws := by
  induction vs with
  | nil => simp [Nat.add_comm]
  | cons v vs ih =>
    rw [List.cons_append, List.cons.sizeOf_spec, List.cons.sizeOf_spec]
    omega

end Value

namespace Sql

/-- Does a cell meet a condition? What the database takes for equal is left to it. -/
def Condition.Meets (equal : Value → Value → Prop) (cell : Value) : Condition → Prop
  | isNull => cell = .null
  | never => False
  | oneOf members => ∃ v ∈ members, equal cell v
  | equals v => equal cell v

/-- A row matches a filter if its cells meet all conditions. -/
def Matches (equal : Value → Value → Prop) (filter : Mapping) (row : String → Value) : Prop :=
  ∀ e ∈ filter.entries, (Condition.ofValue e.2).Meets equal (row e.1.shown)

namespace Condition

private theorem ofValue_of_single {v : Value} (set : v ≠ .null) (single : v.isCollection = false) :
    ofValue v = equals v := by
  cases v with
  | null => exact absurd rfl set
  | list | tuple | set => cases single
  | _ => rfl

theorem meets_ofValue (equal : Value → Value → Prop) (cell : Value) {v : Value} (set : v ≠ .null) :
    (ofValue v).Meets equal cell ↔ ∃ w ∈ v.choices, equal cell w := by
  cases v with
  | null => exact absurd rfl set
  | list vs | tuple vs | set _ vs => cases vs <;> simp [ofValue, Meets, Value.choices]
  | _ => simp [ofValue, Meets, Value.choices]

end Condition

theorem boundValues_separatedBy (separator : String) (pss : List (List Piece)) :
    boundValues (separatedBy separator pss) = pss.flatMap boundValues := by
  induction pss with
  | nil => rfl
  | cons ps pss ih =>
    cases pss with
    | nil => simp [separatedBy]
    | cons qs rest => simp [separatedBy_cons_cons, boundValues, ih]

theorem boundValues_binds (vs : List Value) :
    (vs.map fun v => [Piece.bind v]).flatMap boundValues = vs := by
  rw [List.flatMap_map]
  exact List.flatMap_singleton' vs

theorem boundValues_condition (column : String) {v : Value} (set : v ≠ .null) :
    boundValues ((Condition.ofValue v).pieces column) = v.choices := by
  cases v with
  | null => exact absurd rfl set
  | list vs | tuple vs | set _ vs =>
    cases vs with
    | nil => rfl
    | cons v vs =>
      simp only [Condition.ofValue, Condition.pieces, List.cons_append, boundValues,
        boundValues_append, boundValues_separatedBy, boundValues_binds, List.append_nil, Value.choices]
  | _ => rfl

/-! Clauses that ask something of named columns. -/

section

variable (f : String → Value)

/-- What a filter asks of each of its columns. -/
def asked (names : List String) : List Piece :=
  separatedBy " AND " (names.map fun name => (Condition.ofValue (f name)).pieces name)

def equalities (names : List String) : List Piece :=
  separatedBy " AND " (names.map fun name => [.word (name ++ " = "), .bind (f name)])

theorem boundValues_asked {names : List String} (set : ∀ name ∈ names, f name ≠ .null) :
    boundValues (asked f names) = names.flatMap fun name => (f name).choices := by
  rw [asked, boundValues_separatedBy, List.flatMap_map, List.flatMap_def, List.flatMap_def]
  congr 1
  exact List.map_congr_left fun name here => boundValues_condition name (set name here)

theorem boundValues_equalities (names : List String) :
    boundValues (equalities f names) = names.map f := by
  rw [equalities, boundValues_separatedBy, List.flatMap_map]
  exact List.map_eq_flatMap.symm

theorem sizeOf_asked_le (names : List String) :
    sizeOf (names.flatMap fun name => (f name).choices) ≤ sizeOf (names.map f) := by
  induction names with
  | nil => exact Nat.le_refl _
  | cons name names ih =>
    have front := (f name).sizeOf_choices_le
    have all := Value.sizeOf_append (f name).choices (names.flatMap fun name => (f name).choices)
    rw [List.flatMap_cons, List.map_cons, List.cons.sizeOf_spec]
    rw [List.cons.sizeOf_spec, List.nil.sizeOf_spec] at front
    omega

theorem sizeOf_asked_lt {names : List String} {name : String} (here : name ∈ names)
    (collection : (f name).isCollection = true) :
    sizeOf (names.flatMap fun name => (f name).choices) < sizeOf (names.map f) := by
  induction names with
  | nil => cases here
  | cons first names ih =>
    have all := Value.sizeOf_append (f first).choices (names.flatMap fun name => (f name).choices)
    rw [List.flatMap_cons, List.map_cons, List.cons.sizeOf_spec]
    rcases List.mem_cons.1 here with rfl | later
    · have front := Value.sizeOf_choices_lt collection
      have rest := sizeOf_asked_le f names
      omega
    · have front := (f first).sizeOf_choices_le
      rw [List.cons.sizeOf_spec, List.nil.sizeOf_spec] at front
      have rest := ih later
      omega

private theorem asked_of_singles {names : List String} (set : ∀ name ∈ names, f name ≠ .null)
    (singles : ∀ name ∈ names, (f name).isCollection = false) : asked f names = equalities f names := by
  rw [asked, equalities]
  congr 1
  refine List.map_congr_left fun name here => ?_
  rw [Condition.ofValue_of_single (set name here) (singles name here)]
  rfl

theorem ofPieces_asked_iff {names : List String} (set : ∀ name ∈ names, f name ≠ .null)
    (front back : List Piece) :
    Statement.ofPieces (front ++ asked f names ++ back) =
        Statement.ofPieces (front ++ equalities f names ++ back) ↔
      ∀ name ∈ names, (f name).isCollection = false := by
  constructor
  · intro same name here
    refine Bool.eq_false_iff.2 fun collection => ?_
    have bound := congrArg Statement.values same
    simp only [Statement.ofPieces, boundValues_append, List.append_cancel_right_eq,
      List.append_cancel_left_eq, boundValues_asked f set, boundValues_equalities] at bound
    have smaller := sizeOf_asked_lt f here collection
    rw [bound] at smaller
    exact Nat.lt_irrefl _ smaller
  · intro singles
    rw [asked_of_singles f set singles]

end

end Sql

end RecordMapper
