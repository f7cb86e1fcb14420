import Scriptlet.Proofs.Scope.Sound

/-! # How a store evolves

What can happen to the scopes of a store from one moment of a run to the next: scopes are created,
live scopes are released unless they are pinned, and more scopes are pinned.  A scope keeps its slot
and, while it is live, its parent; a scope that is not live any more never is again.

Main definitions:

* `Store.IsPermanent`: a scope is live and its slot is pinned.
* `Store.SameShape`: two stores differ at most in bindings.
* `Store.Persists`: what is kept from one store to a later one.
* `Store.Evolves`: what may have happened between two stores. -/

namespace Scriptlet.Store

variable {α : Type} {store before between after : Store α} {link? : α → Option Handle}

/-- A scope is permanent if it is live and its slot is pinned. -/
def IsPermanent (store : Store α) (handle : Handle) : Prop :=
  store.IsLive handle ∧ store.isPinned handle = true

/-- Two stores differ at most in bindings. -/
structure SameShape (before after : Store α) : Prop where
  size_eq : after.scopes.size = before.scopes.size
  slots_eq : after.slots = before.slots
  pinned_eq : after.pinned = before.pinned
  id_eq : ∀ handle, (after.scope handle).id = (before.scope handle).id
  parent_id_eq : ∀ handle, (after.scope handle).parent = (before.scope handle).parent

namespace SameShape

/-- Every store has its own shape. -/
theorem refl (store : Store α) : SameShape store store :=
  ⟨rfl, rfl, rfl, fun _ => rfl, fun _ => rfl⟩

/-- A store whose shape is kept twice has kept it. -/
theorem trans (front : SameShape before between) (back : SameShape between after) :
    SameShape before after where
  size_eq := back.size_eq.trans front.size_eq
  slots_eq := back.slots_eq.trans front.slots_eq
  pinned_eq := back.pinned_eq.trans front.pinned_eq
  id_eq := fun handle => (back.id_eq handle).trans (front.id_eq handle)
  parent_id_eq := fun handle => (back.parent_id_eq handle).trans (front.parent_id_eq handle)

/-- A binding keeps the shape. -/
theorem bind (store : Store α) (holder : Handle) (key : String) (value : α) :
    SameShape store (store.bind holder key value) :=
  ⟨bind_size, rfl, rfl, bind_scope_id, bind_scope_parent⟩

variable (same : SameShape before after)
include same

/-- The same scopes are live in stores of one shape. -/
theorem isLive_iff {handle : Handle} : after.IsLive handle ↔ before.IsLive handle := by
  rw [IsLive, same.slots_eq, same.id_eq, IsLive]

/-- The same ones are pinned. -/
theorem isPinned_eq (handle : Handle) : after.isPinned handle = before.isPinned handle := by
  rw [isPinned, same.pinned_eq, same.id_eq, isPinned]

/-- They have the same scopes around them. -/
theorem parent_eq (handle : Handle) : after.parent handle = before.parent handle := by
  simp only [parent, same.parent_id_eq, resolve, same.slots_eq]

/-- The same ones are permanent. -/
theorem isPermanent_iff {handle : Handle} :
    after.IsPermanent handle ↔ before.IsPermanent handle := by
  rw [IsPermanent, same.isLive_iff, same.isPinned_eq, IsPermanent]

end SameShape

/-- What is kept from one store to a later one. -/
structure Persists (before after : Store α) : Prop where
  /-- Scopes that have been created stay created. -/
  size_le : before.scopes.size ≤ after.scopes.size
  /-- A scope keeps its slot. -/
  id_eq : ∀ {handle : Handle}, handle.index < before.scopes.size →
    (after.scope handle).id = (before.scope handle).id
  /-- A scope that is not live does not come back. -/
  isLive_before : ∀ {handle : Handle}, handle.index < before.scopes.size → after.IsLive handle →
    before.IsLive handle
  /-- A permanent scope stays permanent. -/
  isPermanent : ∀ {handle : Handle}, before.IsPermanent handle → after.IsPermanent handle
  /-- A live scope keeps its parent. -/
  parent_eq : ∀ {handle : Handle}, before.IsLive handle → after.IsLive handle →
    after.parent handle = before.parent handle

namespace Persists

/-- Every store persists in itself. -/
theorem refl (store : Store α) : store.Persists store where
  size_le := Nat.le_refl _
  id_eq := fun _ => rfl
  isLive_before := fun _ => id
  isPermanent := id
  parent_eq := fun _ _ => rfl

/-- A tidy store that persists twice persists. -/
theorem trans (tidy : before.Tidy) (front : before.Persists between)
    (back : between.Persists after) : before.Persists after where
  size_le := Nat.le_trans front.size_le back.size_le
  id_eq := by
    intro handle old
    rw [back.id_eq (Nat.lt_of_lt_of_le old front.size_le), front.id_eq old]
  isLive_before := fun old still =>
    front.isLive_before old (back.isLive_before (Nat.lt_of_lt_of_le old front.size_le) still)
  isPermanent := fun permanent => back.isPermanent (front.isPermanent permanent)
  parent_eq := by
    intro handle live still
    -- The scope is live in between as well, since it could not have come back.
    have old := Nat.lt_of_lt_of_le (tidy.index_lt live) front.size_le
    have middle := back.isLive_before old still
    rw [back.parent_eq middle still, front.parent_eq live middle]

end Persists

/-- What may have happened between two stores: scopes have been created inside `site`, of which the
second is inside the first, and scopes have been pinned because a scope that meets `cause` reached
them. -/
structure Evolves (link? : α → Option Handle) (site : Option Handle) (cause : Handle → Prop)
    (before after : Store α) : Prop extends Persists before after where
  /-- A new scope is live, and is inside the site or inside another new scope. -/
  created : ∀ {handle : Handle}, before.scopes.size ≤ handle.index →
    handle.index < after.scopes.size → after.IsLive handle ∧
      ∃ around, after.parent handle = .ok (some around) ∧
        (site = some around ∨
          (around = ⟨before.scopes.size⟩ ∧ handle.index = before.scopes.size + 1))
  /-- A scope is pinned because it was before, or because of a cause that reached it. -/
  isPinned_cause : ∀ {handle : Handle}, after.IsPermanent handle → before.IsPermanent handle ∨
    ∃ origin, cause origin ∧ before.Reaches link? origin handle

namespace Evolves

variable {site : Option Handle} {cause : Handle → Prop}

/-- Nothing has happened. -/
theorem refl (store : Store α) : store.Evolves link? site cause store where
  toPersists := .refl store
  created := fun old new => absurd new (Nat.not_lt.mpr old)
  isPinned_cause := Or.inl

/-- Names have been bound after all else. -/
theorem sameShape (evolves : before.Evolves link? site cause between)
    (same : SameShape between after) : before.Evolves link? site cause after where
  size_le := by
    rw [same.size_eq]
    exact evolves.size_le
  id_eq := fun created => (same.id_eq _).trans (evolves.id_eq created)
  isLive_before := fun created live => evolves.isLive_before created (same.isLive_iff.mp live)
  isPermanent := fun permanent => same.isPermanent_iff.mpr (evolves.isPermanent permanent)
  parent_eq := by
    intro handle live still
    rw [same.parent_eq]
    exact evolves.parent_eq live (same.isLive_iff.mp still)
  created := by
    intro handle old new
    rw [same.size_eq] at new
    rw [same.isLive_iff, same.parent_eq]
    exact evolves.created old new
  isPinned_cause := fun permanent => evolves.isPinned_cause (same.isPermanent_iff.mp permanent)

/-- A scope has been created inside the site. -/
theorem createChild (sound : store.Sound link?) {around : Handle} (live : store.IsLive around)
    (name : Option String) (here : site = some around) :
    store.Evolves link? site cause (store.createChild around name).2 where
  size_le := by
    rw [Store.createChild, create_size]
    exact Nat.le_succ _
  id_eq := by
    intro handle old
    rw [Store.createChild, create_scope_of_lt old]
  isLive_before := by
    intro handle old still
    -- What is live was live before, or it is the new scope.
    obtain before | rfl := sound.tidy.create_isLive_iff.mp still
    · exact before
    · exact absurd old (Nat.lt_irrefl _)
  isPermanent := by
    rintro handle ⟨handleLive, pinned⟩
    refine ⟨sound.tidy.create_isLive_iff.mpr (Or.inl handleLive), ?_⟩
    rw [Store.createChild, create_isPinned_of_lt (sound.tidy.index_lt handleLive)]
    exact pinned
  parent_eq := fun handleLive _ => create_parent_of_isLive sound.tidy sound.rooted handleLive
  created := by
    intro handle old new
    rw [Store.createChild, create_size] at new
    obtain ⟨index⟩ := handle
    obtain rfl : index = store.scopes.size := by
      simp only at old new
      omega
    exact ⟨sound.tidy.create_isLive_iff.mpr (Or.inr rfl), around,
      createChild_parent_new sound.tidy live, Or.inl here⟩
  isPinned_cause := by
    rintro handle ⟨still, pinned⟩
    obtain before | rfl := sound.tidy.create_isLive_iff.mp still
    · rw [Store.createChild, create_isPinned_of_lt (sound.tidy.index_lt before)] at pinned
      exact Or.inl ⟨before, pinned⟩
    · rw [Store.createChild, sound.create_isPinned_new] at pinned
      cases pinned

/-- A second scope has been created inside the first one. -/
theorem createChild_inside {around : Handle} (tidy : before.Tidy)
    (evolves : before.Evolves link? site cause between) (sound : between.Sound link?)
    (one : between.scopes.size = before.scopes.size + 1)
    (first : around = ⟨before.scopes.size⟩) (live : between.IsLive around)
    (name : Option String) :
    before.Evolves link? site cause (between.createChild around name).2 := by
  have next : between.Evolves link? (some around) (fun _ => False)
      (between.createChild around name).2 := createChild sound live name rfl
  refine ⟨evolves.toPersists.trans tidy next.toPersists, ?_, ?_⟩
  · intro handle old new
    -- The handle is that of the first new scope or that of the second.
    by_cases bound : handle.index < between.scopes.size
    · obtain ⟨middle, outer, inside, place⟩ := evolves.created old bound
      have still : (between.createChild around name).2.IsLive handle :=
        sound.tidy.create_isLive_iff.mpr (Or.inl middle)
      refine ⟨still, outer, ?_, place⟩
      rw [next.parent_eq middle still, inside]
    · have recent := Nat.le_of_not_lt bound
      obtain ⟨still, outer, inside, place⟩ := next.created recent new
      rw [Store.createChild, create_size] at new
      refine ⟨still, outer, inside, Or.inr ⟨?_, by omega⟩⟩
      obtain same | ⟨-, later⟩ := place
      · rw [← first, Option.some.inj same]
      · omega
  · intro handle permanent
    obtain middle | ⟨_, impossible, -⟩ := next.isPinned_cause permanent
    · exact evolves.isPinned_cause middle
    · exact absurd impossible id

/-- A scope has been released that has no live scope inside it. -/
theorem release (sound : store.Sound link?) {handle : Handle}
    (childless : store.isPinned handle = false → ∀ inner, store.IsLive inner →
      store.parent inner ≠ .ok (some handle)) :
    store.Evolves link? site cause (store.release handle).2 where
  size_le := Nat.le_of_eq (by rw [release_scopes])
  id_eq := by
    intro other _
    rw [release_scope]
  isLive_before := fun _ still => (release_isLive_iff.mp still).1
  isPermanent := by
    rintro other ⟨live, pinned⟩
    refine ⟨release_isLive_iff.mpr ⟨live, ?_⟩, ?_⟩
    · rintro rfl
      exact pinned
    · rw [release_isPinned]
      exact pinned
  parent_eq := by
    intro other live _
    -- A scope whose parent is released would lose it; none that is live does.
    cases pinned : store.isPinned handle with
    | true => rw [release_of_isPinned pinned]
    | false => exact release_parent sound.rooted live (childless pinned other live)
  created := by
    intro other old new
    rw [release_scopes] at new
    exact absurd new (Nat.not_lt.mpr old)
  isPinned_cause := by
    rintro other ⟨still, pinned⟩
    rw [release_isPinned] at pinned
    exact Or.inl ⟨(release_isLive_iff.mp still).1, pinned⟩

/-- A scope that is a cause has been kept, with all that it reaches. -/
theorem withPins {origin : Handle} {pins : Std.TreeSet Nat} (causes : cause origin)
    (contains_iff : ∀ id, pins.contains id = true ↔ store.pinned.contains id = true ∨
      ∃ handle, store.IsLive handle ∧ (store.scope handle).id = id ∧
        store.Reaches link? origin handle) :
    store.Evolves link? site cause (store.withPins pins) where
  size_le := Nat.le_refl _
  id_eq := fun _ => rfl
  isLive_before := fun _ => id
  isPermanent := fun ⟨live, pinned⟩ => ⟨live, (contains_iff _).mpr (Or.inl pinned)⟩
  parent_eq := fun _ _ => rfl
  created := fun old new => absurd new (Nat.not_lt.mpr old)
  isPinned_cause := by
    rintro handle ⟨live, pinned⟩
    obtain before | ⟨other, otherLive, same, path⟩ := (contains_iff _).mp pinned
    · exact Or.inl ⟨live, before⟩
    · exact Or.inr ⟨origin, causes, otherLive.eq_of_id_eq live same ▸ path⟩

end Evolves

end Scriptlet.Store
