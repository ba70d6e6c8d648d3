import RecordMapper.Proofs.Operation.Populating
import RecordMapper.Proofs.Value.Failure

/-!
How searches fail. Once the reply is there, records are made of its rows without another look at what is
registered. So rows fail by their form, or as a transform or the hook of the model fails, and a search that
fails because a model is not registered has sent nothing, unless it is one of these that says so.
-/
namespace RecordMapper

def Error.isUnregistered : Error → Bool
  | unknownModel _ | noTarget _ | unboundClass _ => true
  | _ => false

theorem Error.isUnregistered_of_isFormal {e : Error} (h : e.isFormal) : e.isUnregistered = false := by
  cases e with
  | unknownModel _ | noTarget _ | unboundClass _ => cases h
  | _ => rfl

namespace Operation

/-- What a row raises while a record is made of it: an error of a transform, applied to the payload of its
relation, or of the hook of the model, applied to the row with all payloads decoded. -/
inductive RowRaises (fns : Functions) (m : ModelClass) : List (String × Relation) → Value → Error → Prop
  | transform {name : String} {r : Relation} {joined : List (String × Relation)} {row : Value}
      {columns : Mapping} {column payload : Value} {f : Callable} {e : Error}
      (mapping : row.mapping? = some columns) (there : columns.get? (.text name) = some column)
      (parsed : Relation.parsePayload column = .ok payload) (given : r.transform = some f)
      (raised : f.apply fns (Relation.fillPayload r.kind payload) = .error e) :
      RowRaises fns m ((name, r) :: joined) row e
  | later {name : String} {r : Relation} {joined : List (String × Relation)} {row row' : Value} {e : Error}
      (decoded : r.decode fns name row = .ok row') (rest : RowRaises fns m joined row' e) :
      RowRaises fns m ((name, r) :: joined) row e
  | hook {row : Value} {e : Error} (raised : m.hook row = .error e) : RowRaises fns m [] row e

/-- An error from behind the statement of a search: the reply is an error, or a row of it raises one. -/
def RaisedBehind {κ : Type} (replies : Replies κ) (fns : Functions) (m : ModelClass) (s : Search)
    (request : Request κ (List Record)) (e : Error) : Prop :=
  replies request.target request.statement = .error e ∨
    ∃ reply rows schema wanted, replies request.target request.statement = .ok reply ∧
      reply.toItems = .ok rows ∧ m.schema = .ok schema ∧ Wanted.ofValue s.populate = .ok wanted ∧
      ∃ row ∈ rows, RowRaises fns m (populated schema wanted) row e

section

variable {fns : Functions} {m : ModelClass} {e : Error}

private theorem failsByForm_parsePayload (column : Value) : FailsByForm (Relation.parsePayload column) := by
  cases column with
  | text s => exact Json.failsByForm_parse _
  | looseText ns => exact Json.failsByForm_parsePoints ns
  | bytes bs => exact Json.failsByForm_parseBytes bs
  | _ => exact .ok _

theorem decode_eq_error {name : String} {r : Relation} {row : Value} (h : r.decode fns name row = .error e)
    (joined : List (String × Relation)) : e.isFormal ∨ RowRaises fns m ((name, r) :: joined) row e := by
  unfold Relation.decode at h
  split at h
  · rename_i columns mapping
    unfold Relation.decodeRow at h
    cases there : columns.get? (.text name) with
    | none =>
      rw [there] at h
      cases h
    | some column =>
      simp only [there] at h
      unfold Relation.payload at h
      cases parsed : Relation.parsePayload column with
      | error why =>
        rw [parsed] at h
        cases h
        exact .inl (failsByForm_parsePayload column _ parsed)
      | ok payload =>
        rw [parsed, ok_bind] at h
        cases given : r.transform with
        | none =>
          rw [given] at h
          cases h
        | some f =>
          simp only [given] at h
          cases raised : f.apply fns (Relation.fillPayload r.kind payload) with
          | ok v =>
            rw [raised] at h
            cases h
          | error why =>
            rw [raised] at h
            cases h
            exact .inr (.transform mapping there parsed given raised)
  · have plain : FailsByForm (do
        if ← (Value.text name).memberOf row then row.part (.text name) else return row) :=
      .bind (Value.failsByForm_memberOf _ row) fun _ => .ite (Value.failsByForm_part row _) (.ok _)
    exact .inl (plain e h)

private theorem failsByForm_build (fns : Functions) (m : ModelClass) (data : Value) :
    FailsByForm (Record.build fns m .null data (.bool false) false) := by
  have schema : FailsByForm m.schema := by
    unfold ModelClass.schema
    split
    · exact .ok _
    · exact .error rfl
  unfold Record.build
  exact .bind schema fun s => .bind (Value.failsByForm_toMapping _) fun values => .ok _

private theorem hydrate_cons (fns : Functions) (m : ModelClass) (name : String) (r : Relation)
    (joined : List (String × Relation)) (row : Value) :
    hydrate fns m ((name, r) :: joined) row = r.decode fns name row >>= hydrate fns m joined := by
  unfold hydrate
  rw [List.foldlM_cons, bind_assoc]

/-- Records are made without validation, so that rows fail by their form, or as they raise an error. -/
theorem hydrate_eq_error {joined : List (String × Relation)} {row : Value}
    (h : hydrate fns m joined row = .error e) : e.isFormal ∨ RowRaises fns m joined row e := by
  induction joined generalizing row with
  | nil =>
    have h : (m.hook row >>= fun row => Record.build fns m .null row (.bool false) false) = .error e := h
    rcases bind_eq_error.1 h with raised | ⟨row', _, unbuilt⟩
    · exact .inr (.hook raised)
    · exact .inl (failsByForm_build fns m row' e unbuilt)
  | cons relation joined ih =>
    obtain ⟨name, r⟩ := relation
    rw [hydrate_cons] at h
    rcases bind_eq_error.1 h with undecoded | ⟨row', decoded, rest⟩
    · exact decode_eq_error undecoded joined
    · exact (ih rest).imp_right (.later decoded)

/-- A search that fails because a model is not registered sends nothing, unless the error is raised behind
its statement. -/
theorem unsent_of_unregistered {κ : Type} {filter : Value} {s : Search} {route : Route κ}
    {replies : Replies κ} {c : Catalog} (unregistered : e.isUnregistered)
    (h : (observe replies (findMany fns m filter s route) c).1 = .error e) :
    (observe replies (findMany fns m filter s route) c).2 = [] ∨
      ∃ request, (findMany fns m filter s route c).1 = .ok request ∧
        RaisedBehind replies fns m s request e := by
  cases outcome : (findMany fns m filter s route c).1 with
  | error e' =>
    rw [observe_of_error outcome]
    exact .inl rfl
  | ok request =>
    rw [observe_of_ok outcome] at h
    obtain ⟨schema, wanted, hschema, hwanted, finish⟩ := finish_of_findMany outcome
    refine .inr ⟨request, rfl, ?_⟩
    -- What comes after the request looks at no registry.
    have informal : ¬e.isFormal := by
      intro formal
      rw [Error.isUnregistered_of_isFormal formal] at unregistered
      cases unregistered
    rcases bind_eq_error.1 h with failed | ⟨reply, replied, h⟩
    · exact .inl failed
    rw [finish] at h
    rcases bind_eq_error.1 h with unlisted | ⟨rows, listed, h⟩
    · exact absurd (Value.failsByForm_toItems reply e unlisted) informal
    obtain ⟨row, mem, failed⟩ := mem_of_mapM_eq_error h
    exact .inr ⟨reply, rows, schema, wanted, replied, listed, hschema, hwanted, row, mem,
      (hydrate_eq_error failed).resolve_left informal⟩

end

end Operation

end RecordMapper
