import RecordMapper.Error

/-!
Steps with effects. An action works on a state; it may fail, and what it did to the state before it
failed remains. Actions on a part of a state are actions on the whole.
-/
namespace RecordMapper

abbrev Action (σ α : Type) := ExceptT Error (StateM σ) α

structure Part (σ ρ : Type) where
  get : σ → ρ
  set : ρ → σ → σ

namespace Action

variable {σ ρ α β : Type}

def attempt (a : Action σ α) : Action σ (Except Error α) := fun s =>
  match a s with
  | (outcome, s') => (.ok outcome, s')

def within (part : Part σ ρ) (a : Action ρ α) : Action σ α := fun s =>
  match a (part.get s) with
  | (outcome, r) => (outcome, part.set r s)

@[simp] theorem pure_apply (a : α) (s : σ) : (pure a : Action σ α) s = (.ok a, s) := rfl

@[simp] theorem throw_apply (e : Error) (s : σ) : (throw e : Action σ α) s = (.error e, s) := rfl

theorem bind_apply (a : Action σ α) (f : α → Action σ β) (s : σ) :
    (a >>= f) s =
      match a s with
      | (.ok x, s') => f x s'
      | (.error e, s') => (.error e, s') := by
  simp only [bind, ExceptT.bind, ExceptT.mk, StateT.bind]
  rcases a s with ⟨_ | _, _⟩ <;> rfl

@[simp] theorem lift_apply (x : Except Error α) (s : σ) : (liftM x : Action σ α) s = (x, s) := rfl

theorem bind_lift_snd (a : Action σ α) (f : α → Except Error β) (s : σ) :
    ((a >>= fun x => liftM (f x)) s).2 = (a s).2 := by
  rw [bind_apply]
  rcases a s with ⟨_ | _, _⟩ <;> rfl

@[simp] theorem get_apply (s : σ) : (get : Action σ σ) s = (.ok s, s) := rfl

@[simp] theorem set_apply (s s' : σ) : (set s' : Action σ PUnit) s = (.ok ⟨⟩, s') := rfl

@[simp] theorem modify_apply (f : σ → σ) (s : σ) :
    (modify f : Action σ PUnit) s = (.ok ⟨⟩, f s) := rfl

@[simp] theorem attempt_apply (a : Action σ α) (s : σ) :
    a.attempt s = (.ok (a s).1, (a s).2) := rfl

@[simp] theorem within_apply (part : Part σ ρ) (a : Action ρ α) (s : σ) :
    a.within part s = ((a (part.get s)).1, part.set (a (part.get s)).2 s) := rfl

end Action

end RecordMapper
