import Mathlib.Data.List.Forall2

/-!
When results that may fail are there: a sequence succeeds exactly if each of its parts does, and it fails
as one of its parts does.
-/
namespace RecordMapper

variable {ε α β γ : Type}

theorem bind_eq_ok {x : Except ε α} {f : α → Except ε β} {b : β} :
    x >>= f = .ok b ↔ ∃ a, x = .ok a ∧ f a = .ok b := by
  cases x with
  | error e =>
    constructor
    · intro h; cases h
    · rintro ⟨a, h, _⟩; cases h
  | ok a =>
    constructor
    · exact fun h => ⟨a, rfl, h⟩
    · rintro ⟨a', h, hb⟩
      cases h
      exact hb

theorem ok_bind (a : α) (f : α → Except ε β) : Except.ok a >>= f = f a := rfl

theorem bind_eq_error {x : Except ε α} {f : α → Except ε β} {e : ε} :
    x >>= f = .error e ↔ x = .error e ∨ ∃ a, x = .ok a ∧ f a = .error e := by
  cases x with
  | error e' =>
    constructor
    · exact fun h => .inl (congrArg _ (Except.error.inj h))
    · rintro (h | ⟨a, h, _⟩)
      · exact congrArg _ (Except.error.inj h)
      · cases h
  | ok a =>
    constructor
    · exact fun h => .inr ⟨a, rfl, h⟩
    · rintro (h | ⟨a', h, he⟩)
      · cases h
      · cases h
        exact he

theorem bind_pure_eq_ok {x : Except ε α} {a : α} {p : Prop} {f : α → β} {b : β}
    (known : ∀ y, x = .ok y ↔ p ∧ y = a) : (x >>= fun y => pure (f y)) = .ok b ↔ p ∧ b = f a := by
  rw [bind_eq_ok]
  constructor
  · rintro ⟨y, hy, hb⟩
    obtain ⟨hp, rfl⟩ := (known y).1 hy
    exact ⟨hp, (Except.ok.inj hb).symm⟩
  · rintro ⟨hp, rfl⟩
    exact ⟨a, (known a).2 ⟨hp, rfl⟩, rfl⟩

theorem pure_eq_ok {a b : α} : (pure a : Except ε α) = .ok b ↔ a = b :=
  ⟨fun h => Except.ok.inj h, fun h => congrArg _ h⟩

theorem map_eq_ok {x : Except ε α} {f : α → β} {b : β} :
    x.map f = .ok b ↔ ∃ a, x = .ok a ∧ f a = b := by
  cases x <;> simp [Except.map]

theorem mapError_eq_ok {ε' : Type} {x : Except ε α} {f : ε → ε'} {a : α} :
    x.mapError f = .ok a ↔ x = .ok a := by
  cases x with
  | error e => exact ⟨fun h => (nomatch h), fun h => (nomatch h)⟩
  | ok b => exact ⟨fun h => congrArg _ (Except.ok.inj h), fun h => congrArg _ (Except.ok.inj h)⟩

/-! Walking through a list of items that may fail. -/

section

variable {f : α → Except ε Unit} {xs : List α}

/-- A walk comes to the end exactly if it passes each item. -/
theorem forM_eq_ok : forM xs f = .ok () ↔ ∀ x ∈ xs, f x = .ok () := by
  induction xs with
  | nil => simp [pure_eq_ok]
  | cons x xs ih =>
    rw [List.forM_cons, bind_eq_ok, List.forall_mem_cons, ← ih]
    constructor
    · rintro ⟨_, first, rest⟩
      exact ⟨first, rest⟩
    · rintro ⟨first, rest⟩
      exact ⟨(), first, rest⟩

end

theorem mapM_eq_ok {f : α → Except ε β} {xs : List α} {ys : List β} :
    xs.mapM f = .ok ys ↔ List.Forall₂ (fun x y => f x = .ok y) xs ys := by
  induction xs generalizing ys with
  | nil =>
    rw [List.mapM_nil, pure_eq_ok, List.forall₂_nil_left_iff, eq_comm]
  | cons x xs ih =>
    rw [List.mapM_cons, bind_eq_ok, List.forall₂_cons_left_iff]
    simp only [bind_eq_ok, pure_eq_ok, ih]
    constructor
    · rintro ⟨y, hy, zs, hzs, rfl⟩
      exact ⟨y, zs, hy, hzs, rfl⟩
    · rintro ⟨y, zs, hy, hzs, rfl⟩
      exact ⟨y, hy, zs, hzs, rfl⟩

theorem mem_of_mapM_eq_error {f : α → Except ε β} {xs : List α} {e : ε} (h : xs.mapM f = .error e) :
    ∃ x ∈ xs, f x = .error e := by
  induction xs with
  | nil => cases h
  | cons x xs ih =>
    rw [List.mapM_cons] at h
    rcases bind_eq_error.1 h with first | ⟨y, _, rest⟩
    · exact ⟨x, List.mem_cons_self, first⟩
    · rcases bind_eq_error.1 rest with rest | ⟨_, _, h⟩
      · obtain ⟨x', mem, failed⟩ := ih rest
        exact ⟨x', List.mem_cons_of_mem _ mem, failed⟩
      · cases h

theorem mapM_eq_ok_map {f : α → Except ε β} {g : α → β} {p : α → Prop} {xs : List α} {ys : List β}
    (each : ∀ x ∈ xs, ∀ y, f x = .ok y ↔ p x ∧ y = g x) :
    xs.mapM f = .ok ys ↔ (∀ x ∈ xs, p x) ∧ ys = xs.map g := by
  induction xs generalizing ys with
  | nil => rw [mapM_eq_ok, List.forall₂_nil_left_iff]; simp
  | cons x xs ih =>
    rw [List.forall_mem_cons] at each
    rw [List.mapM_cons, bind_eq_ok, List.forall_mem_cons, List.map_cons]
    simp only [bind_eq_ok, pure_eq_ok, each.1, ih each.2]
    constructor
    · rintro ⟨_, ⟨hx, rfl⟩, _, ⟨hxs, rfl⟩, rfl⟩
      exact ⟨⟨hx, hxs⟩, rfl⟩
    · rintro ⟨⟨hx, hxs⟩, rfl⟩
      exact ⟨_, ⟨hx, rfl⟩, _, ⟨hxs, rfl⟩, rfl⟩

theorem map_eq_of_forall₂ {r : α → β → Prop} {f : β → γ} {g : α → γ} {xs : List α} {ys : List β}
    (h : List.Forall₂ r xs ys) (each : ∀ x ∈ xs, ∀ y, r x y → f y = g x) : ys.map f = xs.map g := by
  induction h with
  | nil => rfl
  | cons hxy _ ih =>
    rw [List.map_cons, List.map_cons, each _ (List.mem_cons_self ..) _ hxy,
      ih fun x hx => each x (List.mem_cons_of_mem _ hx)]

theorem forall_of_forall₂ {r : α → β → Prop} {p : β → Prop} {xs : List α} {ys : List β}
    (h : List.Forall₂ r xs ys) (each : ∀ x ∈ xs, ∀ y, r x y → p y) : ∀ y ∈ ys, p y := by
  induction h with
  | nil => simp
  | cons hxy _ ih =>
    rw [List.forall_mem_cons]
    exact ⟨each _ (List.mem_cons_self ..) _ hxy, ih fun x hx => each x (List.mem_cons_of_mem _ hx)⟩

theorem forall₂_of_mem {r s : α → β → Prop} {xs : List α} {ys : List β} (h : List.Forall₂ r xs ys)
    (each : ∀ x ∈ xs, ∀ y, r x y → s x y) : List.Forall₂ s xs ys :=
  ((List.forall₂_and_left xs ys).2 ⟨each, h⟩).imp fun _ y both => both.1 y both.2

theorem exists_forall₂_iff {r : α → β → Prop} {xs : List α} :
    (∃ ys, List.Forall₂ r xs ys) ↔ ∀ x ∈ xs, ∃ y, r x y := by
  induction xs with
  | nil => simp
  | cons x xs ih =>
    rw [List.forall_mem_cons, ← ih]
    constructor
    · rintro ⟨ys, h⟩
      obtain ⟨y, ys, hxy, hxs, rfl⟩ := List.forall₂_cons_left_iff.1 h
      exact ⟨⟨y, hxy⟩, ys, hxs⟩
    · rintro ⟨⟨y, hxy⟩, ys, hxs⟩
      exact ⟨y :: ys, .cons hxy hxs⟩

theorem forall₂_of_common {r : α → β → Prop} {s : α → γ → Prop} {t : β → γ → Prop} {xs : List α}
    {ys : List β} {zs : List γ} (hr : List.Forall₂ r xs ys) (hs : List.Forall₂ s xs zs)
    (each : ∀ x y z, r x y → s x z → t y z) : List.Forall₂ t ys zs := by
  induction hr generalizing zs with
  | nil =>
    cases hs
    exact .nil
  | cons hxy _ ih =>
    cases hs with
    | cons hxz hs => exact .cons (each _ _ _ hxy hxz) (ih hs)

/-- If there is a failure, it is one of some kind. -/
def FailsOnly (p : ε → Prop) (x : Except ε α) : Prop := ∀ e, x = .error e → p e

namespace FailsOnly

variable {ε' : Type} {p q : ε → Prop} {x y : Except ε α}

theorem mono (hx : FailsOnly p x) (h : ∀ e, p e → q e) : FailsOnly q x := fun e he => h e (hx e he)

theorem ok (a : α) : FailsOnly p (.ok a : Except ε α) := fun _ h => nomatch h

theorem error {e : ε} (h : p e) : FailsOnly p (.error e : Except ε α) :=
  fun _ same => Except.error.inj same ▸ h

theorem bind {f : α → Except ε β} (hx : FailsOnly p x) (hf : ∀ a, FailsOnly p (f a)) :
    FailsOnly p (x >>= f) := by
  cases x with
  | error e => exact error (hx e rfl)
  | ok a => exact hf a

theorem ite {b : Prop} [Decidable b] (hx : FailsOnly p x) (hy : FailsOnly p y) :
    FailsOnly p (if b then x else y) := by
  split
  · exact hx
  · exact hy

theorem map {f : α → β} (hx : FailsOnly p x) : FailsOnly p (x.map f) := by
  cases x with
  | error e => exact error (hx e rfl)
  | ok a => exact ok _

theorem mapError {q : ε' → Prop} {f : ε → ε'} (hx : FailsOnly p x) (hf : ∀ e, p e → q (f e)) :
    FailsOnly q (x.mapError f) := by
  cases x with
  | error e => exact error (hf e (hx e rfl))
  | ok a => exact ok _

theorem getD {e : ε} (found : Option α) (h : p e) :
    FailsOnly p ((found.map pure).getD (throw e) : Except ε α) := by
  cases found with
  | none => exact error h
  | some a => exact ok a

theorem mapM {f : α → Except ε β} (each : ∀ a, FailsOnly p (f a)) (xs : List α) :
    FailsOnly p (xs.mapM f) := by
  induction xs with
  | nil => exact ok _
  | cons x xs ih =>
    rw [List.mapM_cons]
    exact bind (each x) fun b => bind ih fun bs => ok _

theorem foldlM {f : β → α → Except ε β} (each : ∀ b a, FailsOnly p (f b a)) (xs : List α) (b : β) :
    FailsOnly p (xs.foldlM f b) := by
  induction xs generalizing b with
  | nil => exact ok b
  | cons x xs ih =>
    rw [List.foldlM_cons]
    exact bind (each b x) ih

end FailsOnly

end RecordMapper
