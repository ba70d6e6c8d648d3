import RecordMapper.Proofs.Operation.Failing
import RecordMapper.Proofs.Operation.Targets

/-!
Targets over time. Models are registered and removed again, and searches look up the targets of relations.
The first search that finds a target settles it, and nothing that comes later changes it. Searches that fail
because a model is not registered send nothing, and are of no consequence once it is.
-/
namespace RecordMapper

namespace Catalog

/-! Changes of what is registered. -/

inductive Change
  | register (d : DatabaseId) (name : String) (m : ModelClass)
  | remove (d : DatabaseId) (name : String)
  | clear (d : DatabaseId)

namespace Change

def apply : Change → Catalog → Catalog
  | register d name m, c => (Catalog.register d name m c).2
  | remove d name, c => c.setRegistry d ((c.registry d).erase name)
  | clear d, c => c.clear d

def applyAll (changes : List Change) (c : Catalog) : Catalog :=
  changes.foldl (fun c change => change.apply c) c

theorem apply_register (d : DatabaseId) (name : String) (m : ModelClass) (c : Catalog) :
    (register d name m).apply c = c.enter d name m := by
  simp only [apply, Catalog.register, Action.bind_apply, Action.modify_apply, Action.lift_apply]
  cases m.schema <;> rfl

theorem apply_targets (change : Change) (c : Catalog) (targets : OrderedMap RelationRef ModelClass) :
    change.apply { c with targets } = { change.apply c with targets } ∧
      (change.apply c).targets = c.targets := by
  cases change with
  | register d name m =>
    rw [apply_register, apply_register]
    exact ⟨rfl, rfl⟩
  | remove d name | clear d => exact ⟨rfl, rfl⟩

private theorem applyAll_targets (changes : List Change) (c : Catalog)
    (targets : OrderedMap RelationRef ModelClass) :
    applyAll changes { c with targets } = { applyAll changes c with targets } ∧
      (applyAll changes c).targets = c.targets := by
  induction changes generalizing c with
  | nil => exact ⟨rfl, rfl⟩
  | cons change changes ih =>
    obtain ⟨given, same⟩ := change.apply_targets c targets
    obtain ⟨rest, sameRest⟩ := ih (change.apply c)
    refine ⟨?_, sameRest.trans same⟩
    rw [applyAll, List.foldl_cons, given]
    exact rest

end Change

/-- A model keeps its database, and the names that are registered there keep their models. -/
structure Keeps (m : ModelClass) (c c' : Catalog) : Prop where
  database : ∀ d, c.database m = .ok d → c'.database m = .ok d
  registered : ∀ d name t, c.database m = .ok d → (c.registry d).get? name = some t →
    (c'.registry d).get? name = some t

section

variable {m : ModelClass} {c c' : Catalog}

theorem Keeps.leads (h : Keeps m c c') {k : RelationRef} {t : ModelClass} (leads : c.Leads m k t) :
    c'.Leads m k t := by
  obtain ⟨d, hd, holds, found⟩ := leads
  exact ⟨d, h.database d hd, holds, h.registered d _ t hd found⟩

/-- Where more is registered, what was kept before is still what would be found. -/
theorem Extends.applyAll (h : Extends m c c') {changes : List Change}
    (keeps : Keeps m c (Change.applyAll changes c)) :
    Extends m (Change.applyAll changes c) (Change.applyAll changes c') := by
  obtain ⟨others, targets⟩ := Change.applyAll_targets changes c c'.targets
  have same (k : RelationRef) : (Change.applyAll changes c).target? k = c.target? k := by
    rw [target?, targets, target?]
  rw [h.others, others]
  refine ⟨rfl, fun k t here => h.kept k t (same k ▸ here), fun k t here => ?_⟩
  rw [same]
  exact (h.added k t here).imp_right fun ⟨absent, leads⟩ => ⟨absent, keeps.leads leads⟩

private theorem findSome?_of_agree {α β : Type} {f g : α → Option β} {y : β} {xs : List α}
    (agree : ∀ x, g x = f x ∨ g x = some y) (h : xs.findSome? f = some y) : xs.findSome? g = some y := by
  induction xs with
  | nil => cases h
  | cons x xs ih =>
    rw [List.findSome?_cons] at h ⊢
    rcases agree x with same | found
    · rw [same]
      cases first : f x with
      | none =>
        rw [first] at h
        exact ih h
      | some z =>
        rw [first] at h
        exact h
    · rw [found]

private theorem database_eq_ok {d : DatabaseId} : c.database m = .ok d ↔ c.database? m = some d := by
  unfold Catalog.database
  cases c.database? m with
  | none => exact ⟨nofun, nofun⟩
  | some d' => exact pure_eq_ok.trans (Option.some_inj).symm

private theorem keeps_register {d : DatabaseId} {name : String} {t : ModelClass}
    (own : ∀ d', c.database m = .ok d' → d' = d) (new : (c.registry d).get? name = none) :
    Keeps m c ((Change.register d name t).apply c) := by
  rw [Change.apply_register]
  refine ⟨fun d' hd => ?_, fun d' name' t' hd found => ?_⟩
  · obtain rfl := own d' hd
    rw [database_eq_ok] at hd ⊢
    refine findSome?_of_agree (fun id => ?_) hd
    simp only [enter, OrderedMap.get?_insert]
    split
    · exact .inr rfl
    · exact .inl rfl
  · obtain rfl := own d' hd
    simp only [enter, setRegistry, if_true]
    rw [OrderedMap.get?_insert, if_neg, found]
    intro same
    rw [← eq_of_beq same, new] at found
    cases found

end

end Catalog

namespace Operation

open Catalog

/-! Histories. -/

inductive Event (κ : Type)
  | change (what : Catalog.Change)
  | search (m : ModelClass) (filter : Value) (s : Search) (route : Route κ)

variable {κ : Type}

def Event.after (fns : Functions) : Event κ → Catalog → Catalog
  | change what, c => what.apply c
  | search m filter s route, c => (findMany fns m filter s route c).2

def afterAll (fns : Functions) (events : List (Event κ)) (c : Catalog) : Catalog :=
  events.foldl (fun c event => event.after fns c) c

/-- A search finds the target of a relation that had none. It is what is registered then, under the name
that the relation refers to, on the database of a model that has the relation. -/
structure Event.Settles (fns : Functions) (event : Event κ) (c : Catalog) (k : RelationRef)
    (t : ModelClass) : Prop where
  before : c.target? k = none
  after : (event.after fns c).target? k = some t
  found : ∃ m filter s route, event = .search m filter s route ∧ c.Leads m k t

section

variable {fns : Functions} {k : RelationRef} {t : ModelClass}

theorem Event.target_kept (event : Event κ) {c : Catalog} (h : c.target? k = some t) :
    (event.after fns c).target? k = some t := by
  cases event with
  | change what =>
    rw [after, target?, (what.apply_targets c c.targets).2]
    exact h
  | search m filter s route => exact (extends_findMany fns filter s route m c).kept k t h

theorem Event.target_settled (event : Event κ) {c : Catalog} (h : (event.after fns c).target? k = some t) :
    c.target? k = some t ∨ event.Settles fns c k t := by
  cases event with
  | change what =>
    rw [after, target?, (what.apply_targets c c.targets).2] at h
    exact .inl h
  | search m filter s route =>
    refine ((extends_findMany fns filter s route m c).added k t h).imp_right ?_
    rintro ⟨absent, leads⟩
    exact ⟨absent, h, m, filter, s, route, rfl, leads⟩

theorem targets_kept (events : List (Event κ)) {c : Catalog} (h : c.target? k = some t) :
    (afterAll fns events c).target? k = some t := by
  induction events generalizing c with
  | nil => exact h
  | cons event events ih => exact ih (event.target_kept h)

theorem targets_settled (events : List (Event κ)) {c : Catalog}
    (h : (afterAll fns events c).target? k = some t) :
    c.target? k = some t ∨ ∃ before event later, events = before ++ event :: later ∧
      event.Settles fns (afterAll fns before c) k t := by
  induction events generalizing c with
  | nil => exact .inl h
  | cons event events ih =>
    -- The target is there after the first event already, or some later one settles it.
    rcases ih h with known | ⟨before, other, later, rfl, settles⟩
    · refine (event.target_settled known).imp_right fun settles => ?_
      exact ⟨[], event, events, rfl, settles⟩
    · exact .inr ⟨event :: before, other, later, rfl, settles⟩

end

/-- The target of a relation is settled by the first search that finds it in the registry, and is the same
ever after, under whatever names and in whatever schemas the relation stands. On a database, a relation
without a target is given one exactly if there is one in the registry. A search that fails because a model is
not registered sends nothing, unless the error comes from behind its statement; what it leaves behind are
targets of relations, and however much is registered then, another search comes to the same as if it had not
been tried before. -/
theorem target_settled_once (fns : Functions) (start : Catalog) (events : List (Event κ)) :
    let c := afterAll fns events start
    (∀ k t, c.target? k = some t →
      (start.target? k = some t ∨ ∃ before event later, events = before ++ event :: later ∧
        event.Settles fns (afterAll fns before start) k t) ∧
      ∀ later : List (Event κ), (afterAll fns later c).target? k = some t) ∧
    (∀ d k t, (c.target? k = some t → (resolve d k c).1 = .ok t) ∧
      (c.target? k = none →
        ((resolve d k c).1 = .ok t ↔ (c.registry d).get? k.relation.model = some t))) ∧
    ∀ (m : ModelClass) (filter : Value) (s : Search) (route : Route κ),
      let search := findMany fns m filter s route
      let c' := (search c).2
      Extends m c c' ∧
      (∀ replies e, (observe replies search c).1 = .error e → e.isUnregistered →
        (observe replies search c).2 = [] ∨
          ∃ request, (search c).1 = .ok request ∧ RaisedBehind replies fns m s request e) ∧
      ∀ changes, Keeps m c (Change.applyAll changes c) → ∀ replies,
        observe replies search (Change.applyAll changes c') =
          observe replies search (Change.applyAll changes c) := by
  intro c
  refine ⟨fun k t here => ⟨targets_settled events here, fun later => targets_kept later here⟩,
    fun d k t => ⟨fun known => ?_, fun absent => resolve_eq_ok_iff absent⟩,
    fun m filter s route => ?_⟩
  · rw [resolve_of_target known]
  · intro search c'
    have extends' : Extends m c c' := extends_findMany fns filter s route m c
    refine ⟨extends', fun replies e h unregistered => unsent_of_unregistered unregistered h,
      fun changes keeps replies => ?_⟩
    exact observe_congr (findMany_congr fns filter s route (extends'.applyAll keeps).alike)

/-! Users with posts, whose model is registered late. -/

def friendsAndPosts : OrderedMap String Relation :=
  .ofEntries [("friends", ⟨.hasMany, "User", "id", "id", none, none⟩),
    ("posts", ⟨.hasMany, "Post", "id", "user_id", none, none⟩)]

def writers : Schema := { users with relations := friendsAndPosts, disjoint := clashes_eq_nil.2 (by decide) }

def post : ModelClass where
  ref := ⟨1, "Post"⟩
  lineage := [1]
  declared? := some ⟨{ users with table := "posts", table_ne := by decide }, fun name => (1, name)⟩
  hook := pure

def friendsOfUser : RelationRef where
  origin := (0, "friends")
  relation := ⟨.hasMany, "User", "id", "id", none, none⟩

def postsOfUser : RelationRef where
  origin := (0, "posts")
  relation := ⟨.hasMany, "Post", "id", "user_id", none, none⟩

theorem target_settled_once_posts :
    let m := user writers
    let search := findMany Function.catalogue m .null { populate := .bool true } (.registered : Route Unit)
    let enrolled : List (Event Unit) := [.change (.register 0 "User" m)]
    let tried := enrolled ++ [.search m .null { populate := .bool true } .registered]
    let c := afterAll Function.catalogue enrolled {}
    let c' := afterAll Function.catalogue tried {}
    let late : List Change := [.register 0 "Post" post]
    observe silent search c = (.error (.noTarget "Post"), []) ∧ Keeps m c (Change.applyAll late c) ∧
      observe silent search (Change.applyAll late c') = observe silent search (Change.applyAll late c) ∧
      (observe silent search (Change.applyAll late c')).2.length = 1 ∧
      c'.target? friendsOfUser = some m ∧ c'.target? postsOfUser = none ∧
      (∀ later : List (Event Unit),
        (afterAll Function.catalogue later c').target? friendsOfUser = some m) ∧
      ∀ d t, (resolve d friendsOfUser c').1 = .ok m ∧
        ((resolve d postsOfUser c').1 = .ok t ↔ (c'.registry d).get? "Post" = some t) := by
  intro m search enrolled tried c c' late
  have outcome : (observe silent search c).1 = .error (.noTarget "Post") := rfl
  have failed : (search c).1 = .error (.noTarget "Post") := rfl
  have friends : c'.target? friendsOfUser = some m := rfl
  have posts : c'.target? postsOfUser = none := rfl
  have keeps : Keeps m c (Change.applyAll late c) :=
    keeps_register (fun d' h => (Except.ok.inj h).symm) rfl
  obtain ⟨_, _, each⟩ := target_settled_once Function.catalogue {} enrolled
  obtain ⟨_, unsent, again⟩ := each m .null { populate := .bool true } .registered
  obtain ⟨settled, resolved, _⟩ := target_settled_once Function.catalogue {} tried
  have nothing : (observe silent search c).2 = [] := by
    refine (unsent silent _ outcome rfl).resolve_right ?_
    rintro ⟨request, found, _⟩
    cases failed.symm.trans found
  refine ⟨Prod.ext outcome nothing, keeps, again late keeps silent, rfl, friends, posts,
    (settled _ _ friends).2, fun d t => ⟨?_, ?_⟩⟩
  · exact (resolved d _ m).1 friends
  · exact (resolved d _ t).2 posts

/-- The hook of a model may raise the error of a missing model when a statement has been sent already. And a
class that is registered nowhere has no database to look targets up on, whatever is registered. -/
theorem unregistered_in_other_ways :
    let hooked : ModelClass := { user writers with hook := fun _ => .error (.noTarget "Ghost") }
    let row : Replies Unit := fun _ _ => .ok (.list [.dict []])
    let search (m : ModelClass) : Action Catalog (Request Unit (List Record)) :=
      findMany Function.catalogue m .null { populate := .bool true } (.given ())
    let enrolled : List Change := [.register 0 "User" hooked, .register 0 "Post" post]
    let others : List Change := [.register 0 "User" post, .register 0 "Post" post]
    let c : Catalog := Change.applyAll enrolled {}
    let c' : Catalog := Change.applyAll others {}
    (observe row (search hooked) c).1 = .error (.noTarget "Ghost") ∧
      (observe row (search hooked) c).2.length = 1 ∧
      c'.target? friendsOfUser = none ∧ (c'.registry 0).get? friendsOfUser.relation.model = some post ∧
      observe row (search (user writers)) c' = (.error (.unboundClass "User"), []) ∧
      (search (user writers) c').2.target? friendsOfUser = none :=
  ⟨rfl, rfl, rfl, rfl, rfl, rfl⟩

end Operation

end RecordMapper
