import RecordMapper.Proofs.Operation.Limiting
import RecordMapper.Proofs.Operation.Routing

/-!
Targets of relations. A search looks them up one after the other, and may come to an end halfway. What it
has kept by then is what it finds in the registry, so that another search comes to the same request with
these targets and without them.
-/
namespace RecordMapper

theorem Action.bind_congr {σ α β : Type} {a : Action σ α} {f : α → Action σ β} {s s' : σ}
    (first : (a s').1 = (a s).1)
    (next : ∀ x, (a s).1 = .ok x → (f x (a s').2).1 = (f x (a s).2).1) :
    ((a >>= f) s').1 = ((a >>= f) s).1 := by
  rw [bind_apply, bind_apply]
  revert first next
  rcases a s with ⟨outcome, t⟩
  rcases a s' with ⟨outcome', t'⟩
  rintro (rfl : outcome' = outcome) next
  cases outcome' with
  | error e => rfl
  | ok x => exact next x rfl

theorem ModelClass.relation_of_mem {m : ModelClass} {schema : Schema} (hschema : m.schema = .ok schema)
    {name : String} {r : Relation} (mem : (name, r) ∈ schema.relations.entries) :
    m.relation name = .ok r := by
  rw [relation, hschema, ok_bind, OrderedMap.mem_entries_iff.1 mem]
  rfl

def ModelClass.Holds (m : ModelClass) (k : RelationRef) : Prop :=
  ∃ name r, m.relation name = .ok r ∧ k = m.relationRef name r

namespace Catalog

/-- A relation of a model leads to what the registry of the model's database has under the name that it
refers to. -/
def Leads (c : Catalog) (m : ModelClass) (k : RelationRef) (t : ModelClass) : Prop :=
  ∃ d, c.database m = .ok d ∧ m.Holds k ∧ (c.registry d).get? k.relation.model = some t

/-- The second catalog is the first one, with targets that relations of a model lead to. -/
structure Extends (m : ModelClass) (c c' : Catalog) : Prop where
  others : c' = { c with targets := c'.targets }
  kept : ∀ k t, c.target? k = some t → c'.target? k = some t
  added : ∀ k t, c'.target? k = some t → c.target? k = some t ∨ c.target? k = none ∧ c.Leads m k t

section

variable {m : ModelClass} {c c' c'' : Catalog} {d : DatabaseId} {k : RelationRef} {t : ModelClass}

theorem Extends.refl (m : ModelClass) (c : Catalog) : Extends m c c :=
  ⟨rfl, fun _ _ => id, fun _ _ => .inl⟩

theorem Extends.leads_iff (h : Extends m c c') : c'.Leads m k t ↔ c.Leads m k t := by
  rw [h.others]
  rfl

theorem Extends.trans (h : Extends m c c') (h' : Extends m c' c'') : Extends m c c'' := by
  refine ⟨?_, fun k t here => h'.kept k t (h.kept k t here), fun k t here => ?_⟩
  · rw [h'.others, h.others]
  · rcases h'.added k t here with here | ⟨absent, leads⟩
    · exact h.added k t here
    · refine .inr ⟨?_, h.leads_iff.1 leads⟩
      cases before : c.target? k with
      | none => rfl
      | some t' => exact (h.kept k t' before).symm.trans absent

theorem Extends.resolve (hd : c.database m = .ok d) (holds : m.Holds k) :
    Extends m c (Catalog.resolve d k c).2 := by
  cases known : c.target? k with
  | some t =>
    rw [resolve_of_target known]
    exact .refl m c
  | none =>
    cases found : (c.registry d).get? k.relation.model with
    | none =>
      rw [resolve_of_unknown known found]
      exact .refl m c
    | some t =>
      rw [resolve_of_registered known found]
      refine ⟨rfl, fun k' t' here => ?_, fun k' t' here => ?_⟩
      · rw [target?_keepTarget, if_neg, here]
        intro own
        rw [← eq_of_beq own, known] at here
        cases here
      · rw [target?_keepTarget] at here
        split at here
        · rename_i own
          obtain rfl := eq_of_beq own
          obtain rfl := Option.some.inj here
          exact .inr ⟨known, d, hd, holds, found⟩
        · exact .inl here

theorem Extends.bind {α β : Type} {a : Action Catalog α} {f : α → Action Catalog β}
    (first : Extends m c (a c).2)
    (next : ∀ x, (a c).1 = .ok x → Extends m (a c).2 (f x (a c).2).2) :
    Extends m c ((a >>= f) c).2 := by
  rcases made : a c with ⟨e | x, c₁⟩
  · rw [made] at first
    rw [Action.bind_of_error made]
    exact first
  · rw [made] at first next
    rw [Action.bind_of_ok made]
    exact first.trans (next x rfl)

theorem Extends.lift {α β : Type} {x : Except Error α} {f : α → Action Catalog β}
    (next : ∀ a, x = .ok a → Extends m c (f a c).2) : Extends m c ((liftM x >>= f) c).2 :=
  .bind (.refl m c) next

/-- What is kept is what would be found. -/
theorem Extends.alike (h : Extends m c c') : Alike m c c' := by
  refine ⟨by rw [h.others], fun d hd k => ?_⟩
  have registry : c'.registry = c.registry := by rw [h.others]
  rw [destination?, destination?, registry]
  cases later : c'.target? k with
  | none =>
    cases before : c.target? k with
    | none => rfl
    | some t =>
      have kept := (h.kept k t before).symm.trans later
      cases kept
  | some t =>
    rcases h.added k t later with before | ⟨before, d', hd', _, found⟩
    · rw [before]
    -- The target has been found in between, where the first catalog would find it too.
    · obtain rfl := Except.ok.inj (hd.symm.trans hd')
      rw [before, Option.some_or, Option.none_or, found]

end

end Catalog

namespace Operation

open Catalog

variable {κ : Type} {m : ModelClass} {c c' : Catalog}

private theorem extends_populate {table : String} {relations : List (String × Relation)}
    (declared : ∀ e ∈ relations, m.relation e.1 = .ok e.2) (p : Population) (c : Catalog) :
    Extends m c (populate m table relations p c).2 := by
  induction relations generalizing p c with
  | nil => exact .refl m c
  | cons relation relations ih =>
    rw [List.forall_mem_cons] at declared
    refine .bind (.refl m c) fun c₁ same => ?_
    obtain rfl := Except.ok.inj same
    have holds : m.Holds (m.relationRef relation.1 relation.2) := ⟨_, _, declared.1, rfl⟩
    refine .lift fun d hd => .bind (.resolve hd holds) fun target _ => ?_
    exact .lift fun schema _ => .lift fun sub _ => ih declared.2 _ _

theorem populate_cons (m : ModelClass) (table name : String) (r : Relation)
    (rest : List (String × Relation)) (p : Population) (c : Catalog) :
    populate m table ((name, r) :: rest) p c =
      (liftM (c.database m) >>= fun d => Catalog.resolve d (m.relationRef name r) >>= fun target =>
        liftM target.schema >>= fun schema => liftM (r.compile name schema) >>= fun sub =>
          populate m table rest (p.join table name r sub)) c := rfl

private theorem populate_congr {table : String} (relations : List (String × Relation)) (p : Population)
    (alike : Alike m c c') :
    (populate m table relations p c').1 = (populate m table relations p c).1 := by
  induction relations generalizing p c c' with
  | nil => rfl
  | cons relation relations ih =>
    obtain ⟨name, r⟩ := relation
    rw [populate_cons, populate_cons, alike.database]
    refine Action.bind_congr rfl fun d hd => Action.bind_congr (alike.resolve hd _) fun target _ => ?_
    refine Action.bind_congr rfl fun schema _ => Action.bind_congr rfl fun sub _ => ih _ ?_
    -- Either lookup leaves the destinations as they are.
    have hd' : c'.database m = .ok d := (alike.database m).trans hd
    exact ((Alike.after_resolve hd _).symm.trans alike).trans (.after_resolve hd' _)

section

variable (fns : Functions) (filter : Value) (s : Search) (route : Route κ)

private theorem relations_declared {schema : Schema} (hschema : m.schema = .ok schema) (wanted : Wanted) :
    ∀ e ∈ populated schema wanted, m.relation e.1 = .ok e.2 :=
  fun _ mem => ModelClass.relation_of_mem hschema (List.mem_of_mem_filter mem)

theorem extends_gathered (m : ModelClass) (c : Catalog) : Extends m c (gathered m filter s c).2 := by
  rw [gathered_eq]
  refine .lift fun schema hschema => .lift fun columns _ => .lift fun wanted _ => ?_
  refine .bind (extends_populate (relations_declared hschema wanted) _ c) fun p _ => ?_
  exact .lift fun selected _ => .lift fun conditions _ => .lift fun q _ => .refl m _

/-- A search keeps targets, and leaves everything else as it is, however it ends. -/
theorem extends_findMany (m : ModelClass) (c : Catalog) :
    Extends m c (findMany fns m filter s route c).2 := by
  rw [findMany_eq]
  refine .bind (extends_gathered filter s m c) fun whole _ => .lift fun statement _ => ?_
  exact .bind (.refl m _) fun c₁ _ => .lift fun t _ => .refl m _

/-- What a search comes to depends on the destinations of relations only. -/
theorem findMany_congr (alike : Alike m c c') :
    (findMany fns m filter s route c').1 = (findMany fns m filter s route c).1 := by
  have same : (gathered m filter s c').1 = (gathered m filter s c).1 := by
    rw [gathered_eq]
    refine Action.bind_congr rfl fun schema _ => Action.bind_congr rfl fun columns _ => ?_
    refine Action.bind_congr rfl fun wanted _ => ?_
    refine Action.bind_congr (populate_congr _ _ alike) fun p _ => ?_
    refine Action.bind_congr rfl fun selected _ => Action.bind_congr rfl fun conditions _ => ?_
    exact Action.bind_congr rfl fun q _ => rfl
  have bindings : (gathered m filter s c').2.bindings = (gathered m filter s c).2.bindings := by
    rw [(extends_gathered filter s m c').others, (extends_gathered filter s m c).others]
    exact alike.bindings
  rw [findMany_eq]
  refine Action.bind_congr same fun whole _ => Action.bind_congr rfl fun statement _ => ?_
  simp only [sending, Action.bind_apply, Action.get_apply, Action.lift_apply, target_congr bindings]
  cases target (gathered m filter s c).2 m route <;> rfl

end

end Operation

end RecordMapper
