import RecordMapper.Model.Catalog

/-!
Looking up the target of a relation. A relation leads to the target that is kept for it, or else to what is
registered under the name that it refers to. To look it up keeps it, so that no relation of the model leads
anywhere else than before.
-/
namespace RecordMapper.Catalog

theorem database?_congr {c c' : Catalog} (h : c'.bindings = c.bindings) (m : ModelClass) :
    c'.database? m = c.database? m := by
  rw [database?, database?, h]

variable {m : ModelClass} {c c' c'' : Catalog} {d : DatabaseId} {k : RelationRef} {t : ModelClass}

theorem target?_keepTarget (c : Catalog) (k : RelationRef) (t : ModelClass) (k' : RelationRef) :
    (c.keepTarget k t).target? k' = if k == k' then some t else c.target? k' :=
  OrderedMap.get?_insert ..

theorem resolve_of_target (h : c.target? k = some t) (d : DatabaseId) : resolve d k c = (.ok t, c) := by
  simp only [resolve, Action.bind_apply, Action.get_apply, h]
  rfl

theorem resolve_of_registered (h : c.target? k = none)
    (found : (c.registry d).get? k.relation.model = some t) :
    resolve d k c = (.ok t, c.keepTarget k t) := by
  simp only [resolve, Action.bind_apply, Action.get_apply, h, found]
  rfl

theorem resolve_of_unknown (h : c.target? k = none) (missing : (c.registry d).get? k.relation.model = none) :
    resolve d k c = (.error (.noTarget k.relation.model), c) := by
  simp only [resolve, Action.bind_apply, Action.get_apply, h, missing]
  rfl

/-- A relation without a target is given the one that is registered, if there is one. -/
theorem resolve_eq_ok_iff (h : c.target? k = none) :
    (resolve d k c).1 = .ok t ↔ (c.registry d).get? k.relation.model = some t := by
  cases found : (c.registry d).get? k.relation.model with
  | none => simp [resolve_of_unknown h found]
  | some t' => simp [resolve_of_registered h found]

/-- The target that a relation has, or else would be given. -/
def destination? (c : Catalog) (d : DatabaseId) (k : RelationRef) : Option ModelClass :=
  (c.target? k).or ((c.registry d).get? k.relation.model)

theorem resolve_fst : (resolve d k c).1 =
    match c.destination? d k with
    | some t => .ok t
    | none => .error (.noTarget k.relation.model) := by
  unfold destination?
  cases known : c.target? k with
  | some t => rw [resolve_of_target known, Option.some_or]
  | none =>
    rw [Option.none_or]
    cases found : (c.registry d).get? k.relation.model with
    | none => rw [resolve_of_unknown known found]
    | some t => rw [resolve_of_registered known found]

/-- In both catalogs a model has the same database, and relations lead to the same there. -/
structure Alike (m : ModelClass) (c c' : Catalog) : Prop where
  bindings : c'.bindings = c.bindings
  destinations : ∀ d, c.database m = .ok d → ∀ k, c'.destination? d k = c.destination? d k

namespace Alike

theorem database (h : Alike m c c') (m' : ModelClass) : c'.database m' = c.database m' := by
  rw [Catalog.database, database?_congr h.bindings, Catalog.database]

theorem resolve (h : Alike m c c') (hd : c.database m = .ok d) (k : RelationRef) :
    (Catalog.resolve d k c').1 = (Catalog.resolve d k c).1 := by
  rw [resolve_fst, resolve_fst, h.destinations d hd]

protected theorem refl (m : ModelClass) (c : Catalog) : Alike m c c := ⟨rfl, fun _ _ _ => rfl⟩

theorem symm (h : Alike m c c') : Alike m c' c :=
  ⟨h.bindings.symm, fun d hd k => (h.destinations d ((h.database m).symm.trans hd) k).symm⟩

theorem trans (h : Alike m c c') (h' : Alike m c' c'') : Alike m c c'' :=
  ⟨h'.bindings.trans h.bindings, fun d hd k =>
    (h'.destinations d ((h.database m).trans hd) k).trans (h.destinations d hd k)⟩

/-- What is kept is what would be found. -/
theorem after_resolve (hd : c.database m = .ok d) (k : RelationRef) :
    Alike m c (Catalog.resolve d k c).2 := by
  cases known : c.target? k with
  | some t =>
    rw [resolve_of_target known]
    exact .refl m c
  | none =>
    cases found : (c.registry d).get? k.relation.model with
    | none =>
      rw [resolve_of_unknown known found]
      exact .refl m c
    | some t =>
      rw [resolve_of_registered known found]
      refine ⟨rfl, fun d' hd' k' => ?_⟩
      obtain rfl := Except.ok.inj (hd.symm.trans hd')
      rw [destination?, destination?, target?_keepTarget]
      split
      · rename_i same
        obtain rfl := eq_of_beq same
        rw [known, Option.some_or, Option.none_or, found]
      · rfl

end Alike

end RecordMapper.Catalog
