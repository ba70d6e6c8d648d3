import RecordMapper.Engine.Event
import RecordMapper.Proofs.Sql.Direct
import RecordMapper.Proofs.Sql.Sealed

/-!
Placeholders and values correspond. If the identifiers of a statement have no colon, its text has
exactly the placeholders of its values, in order, and with the values put in place of their
placeholders it is the statement written out with its values.
-/
namespace RecordMapper.Sql

/-! The values of a statement by the names of their placeholders. -/

def parameterKey (n : Nat) : Value := .text (String.ofList (parameterName n))

theorem parameterKey_beq (m n : Nat) : (parameterKey m == parameterKey n) = (m == n) := by
  rw [Bool.eq_iff_iff, Value.text_beq_iff rfl, beq_iff_eq, parameterKey, parameterKey]
  constructor
  · intro h
    exact parameterName_injective (String.ofList_injective (Value.text.inj h))
  · rintro rfl
    rfl

theorem entries_parameters (values : List Value) :
    (Engine.parameters values).entries = values.zipIdx.map fun x => (parameterKey x.2, x.1) := by
  have distinct : (values.zipIdx.map fun x => (parameterKey x.2, x.1)).Pairwise
      fun a b => (a.1 == b.1) = false := by
    rw [List.pairwise_map]
    have numbers : (values.zipIdx.map (·.2)).Nodup := by
      rw [List.zipIdx_map_snd]
      exact List.nodup_range'
    refine (List.pairwise_map.1 numbers).imp fun {a b} differ => ?_
    rw [parameterKey_beq]
    exact beq_false_of_ne differ
  rw [Engine.parameters, OrderedMap.ofEntries]
  exact OrderedMap.entries_insertAll (m := .empty) distinct

theorem get?_parameters {values : List Value} {n : Nat} {v : Value} (h : values[n]? = some v) :
    (Engine.parameters values).get? (parameterKey n) = some v := by
  apply OrderedMap.get?_of_mem
  · rw [entries_parameters]
    exact List.mem_map.2 ⟨(v, n), List.mk_mem_zipIdx_iff_getElem?.2 h, rfl⟩
  · simp [parameterKey_beq]

def Lexeme.bound? (parameters : Mapping) : Lexeme → Option Token
  | char c => some (.char c)
  | placeholder name => (parameters.get? (.text (String.ofList name))).map .value

def substitute? (parameters : Mapping) (text : List Char) : Option (List Token) :=
  (lex text).mapM (Lexeme.bound? parameters)

private theorem mapM_bound?_chars (parameters : Mapping) (cs : List Char) :
    (cs.map Lexeme.char).mapM (Lexeme.bound? parameters) = some (cs.map Token.char) := by
  induction cs with
  | nil => rfl
  | cons c cs ih => simp [ih, Lexeme.bound?]

private theorem substitute?_textFrom {ps : List Piece} (h : Sealed ps) {values : List Value} {n : Nat}
    (bound : values.drop n = boundValues ps) :
    substitute? (Engine.parameters values) (textFrom n ps) = some (tokens ps) := by
  rw [substitute?, lex_textFrom h]
  clear h
  induction ps generalizing n with
  | nil => rfl
  | cons p ps ih =>
    cases p with
    | word s =>
      rw [numbered, List.mapM_append, mapM_bound?_chars, ih bound]
      rfl
    | bind v =>
      have here : values[n]? = some v := by
        rw [← List.head?_drop, bound]
        rfl
      have later : values.drop (n + 1) = boundValues ps := by
        rw [← List.tail_drop, bound]
        rfl
      have found := get?_parameters here
      rw [parameterKey] at found
      rw [numbered, List.mapM_cons, ih later, Lexeme.bound?, found]
      rfl

/-- A statement has exactly the placeholders of its values, each once and in order, which are the
names that its parameters bind; and with the values in their places it is the statement written out. -/
theorem placeholders_of_render {c : Command} {s : Statement}
    (plain : ∀ name ∈ c.identifiers, Plain name) (h : c.render = .ok s) :
    placeholders s.text.toList = (List.range s.values.length).map parameterName ∧
      (Engine.parameters s.values).keys =
        (placeholders s.text.toList).map (fun name => .text (String.ofList name)) ∧
      substitute? (Engine.parameters s.values) s.text.toList = some c.direct := by
  obtain ⟨ps, hps, rfl⟩ := Command.render_eq_ok h
  have isSealed := sealed_pieces plain hps
  have names : placeholders (Statement.ofPieces ps).text.toList =
      (List.range (boundValues ps).length).map parameterName := by
    rw [Statement.ofPieces, String.toList_ofList, placeholders_textFrom isSealed,
      List.range_eq_range']
  refine ⟨names, ?_, ?_⟩
  · rw [names, OrderedMap.keys, entries_parameters, List.map_map, List.map_map,
      List.range_eq_range', ← List.zipIdx_map_snd, List.map_map]
    rfl
  · rw [Statement.ofPieces, String.toList_ofList, ← tokens_pieces hps]
    exact substitute?_textFrom isSealed (List.drop_zero ..)

def usersWithPosts : Select :=
  let users := .mk [.text "id"] (.table "users") []
    { filter := .ofEntries [(.text "age", .list [.int 30, .int 40])] }
  let posts := .mk [] (.table "posts") [] { filter := .ofEntries [(.text "state", .text "open")] }
  .mk [.text "u.id"] (.subquery users "u") [.left posts "p" "u.id" "p.owner"]
    { filter := .ofEntries [(.text "u.name", .text ":p_7"), (.text "u.left", .null)] }

def usersWithPostsStatement : Statement :=
  let users := "SELECT id FROM users WHERE age IN (:p_0, :p_1)"
  let posts := "SELECT * FROM posts WHERE state = :p_2"
  ⟨"SELECT u.id FROM (" ++ users ++ ") AS u LEFT JOIN (" ++ posts ++ ") AS p ON u.id = p.owner" ++
    " WHERE u.name = :p_3 AND u.left IS NULL",
    [.int 30, .int 40, .text "open", .text ":p_7"]⟩

set_option maxRecDepth 4000 in
theorem placeholders_of_usersWithPosts :
    let c := Command.select usersWithPosts
    let s := usersWithPostsStatement
    (∀ name ∈ c.identifiers, Plain name) ∧ c.render = .ok s ∧
      placeholders s.text.toList = (List.range s.values.length).map parameterName ∧
      (Engine.parameters s.values).keys =
        (placeholders s.text.toList).map (fun name => .text (String.ofList name)) ∧
      substitute? (Engine.parameters s.values) s.text.toList = some c.direct := by
  have plain : ∀ name ∈ (Command.select usersWithPosts).identifiers, Plain name := by decide
  have rendered : (Command.select usersWithPosts).render = .ok usersWithPostsStatement := rfl
  exact ⟨plain, rendered, placeholders_of_render plain rendered⟩

end RecordMapper.Sql
