import Scriptlet.Proofs.Scope.Evolve

/-! # Stores that mirror each other

A store that releases scopes and one that keeps them all differ in their slots.  What can be seen
from a live scope of the first is the same in both, though: its bindings, and its parent as a scope,
not as a slot.

Main definitions:

* `Store.Mirrors`: what can be seen from the live scopes of a store is the same in another one.

Main statements: each change of a store can be made in both, and a release in the first one alone;
`Store.Mirrors.find?_eq`: names are found in the same places. -/

namespace Scriptlet.Store

variable {α : Type} {store first second : Store α} {link? : α → Option Handle}

/-- What can be seen from the live scopes of a store is the same in another one. -/
structure Mirrors (first second : Store α) : Prop where
  size_eq : second.scopes.size = first.scopes.size
  bindings_eq : ∀ handle, (second.scope handle).bindings = (first.scope handle).bindings
  isLive : ∀ {handle : Handle}, first.IsLive handle → second.IsLive handle
  parent_eq : ∀ {handle : Handle}, first.IsLive handle →
    second.parent handle = first.parent handle

/-- A new scope has no bindings, just as one that has not been created. -/
theorem create_bindings {parent : Option Nat} {name : Option String} (handle : Handle) :
    ((store.create parent name).2.scope handle).bindings = (store.scope handle).bindings := by
  by_cases old : handle.index < store.scopes.size
  · rw [create_scope_of_lt old]
  · have none : (store.scope handle).bindings = [] := by
      rw [scope, Array.getD_eq_getD_getElem?, Array.getElem?_eq_none (Nat.le_of_not_lt old)]
      rfl
    rw [none, scope, create_scopes, Array.getD_eq_getD_getElem?, Array.getElem?_push]
    split
    · rfl
    · rw [Array.getElem?_eq_none (Nat.le_of_not_lt old)]
      rfl

/-- Nothing changes where a name is not bound. -/
theorem bind_scope_of_not {handle other : Handle} {name : String} {value : α}
    (unchanged : ¬(other = handle ∧ handle.index < store.scopes.size)) :
    (store.bind handle name value).scope other = store.scope other := by
  obtain ⟨same, created, -⟩ | after := bind_scope_eq_or store handle name value other
  · exact absurd ⟨same, created⟩ unchanged
  · exact after

namespace Mirrors

/-- Every store mirrors itself. -/
theorem refl (store : Store α) : store.Mirrors store :=
  ⟨rfl, fun _ => rfl, id, fun _ => rfl⟩

/-! ## Reading -/

section

variable (mirrors : first.Mirrors second)
include mirrors

/-- Names have the same values. -/
theorem get?_eq (handle : Handle) (name : String) :
    second.get? handle name = first.get? handle name := by
  rw [get?, Scope.get?, mirrors.bindings_eq, get?, Scope.get?]

/-- The same names are bound. -/
theorem binds_eq (handle : Handle) (name : String) :
    second.binds handle name = first.binds handle name := by
  show (second.get? handle name).isSome = (first.get? handle name).isSome
  rw [mirrors.get?_eq]

/-- A walk outward meets the same scopes in both stores. -/
theorem finds (tidy : first.Tidy) {name : String} {handle : Handle} {found : Option Handle}
    (live : first.IsLive handle) (finds : first.Finds name handle found) :
    second.Finds name handle found := by
  induction finds with
  | here binds => exact .here (by rw [mirrors.binds_eq, binds])
  | nowhere lacks outermost =>
    exact .nowhere (by rw [mirrors.binds_eq, lacks]) (by rw [mirrors.parent_eq live, outermost])
  | outward lacks inside rest inductionHypothesis =>
    exact .outward (by rw [mirrors.binds_eq, lacks]) (by rw [mirrors.parent_eq live, inside])
      (inductionHypothesis (tidy.parent_isLive inside))

/-- Names are found in the same places. -/
theorem find?_eq (sound : first.Sound link?) (otherSound : second.Sound link?) {name : String}
    {handle : Handle} (live : first.IsLive handle) :
    second.find? name handle = first.find? name handle := by
  obtain ⟨found, search, finds⟩ := exists_find?_eq_ok sound.tidy sound.rooted live name
  rw [search]
  exact (find?_eq_ok_iff otherSound.tidy otherSound.rooted (mirrors.isLive live)).mpr
    (mirrors.finds sound.tidy live finds)

end

/-! ## Changes -/

/-- A scope is created in both stores. -/
theorem create (mirrors : first.Mirrors second) (sound : first.Sound link?)
    (otherSound : second.Sound link?) {parent otherParent : Option Nat} {name : Option String}
    (same : (second.create otherParent name).2.parent ⟨first.scopes.size⟩ =
      (first.create parent name).2.parent ⟨first.scopes.size⟩) :
    (first.create parent name).2.Mirrors (second.create otherParent name).2 where
  size_eq := by rw [create_size, create_size, mirrors.size_eq]
  bindings_eq := by
    intro handle
    rw [create_bindings, create_bindings, mirrors.bindings_eq]
  isLive := by
    intro handle live
    rw [otherSound.tidy.create_isLive_iff, mirrors.size_eq]
    exact (sound.tidy.create_isLive_iff.mp live).imp mirrors.isLive id
  parent_eq := by
    intro handle live
    obtain before | rfl := sound.tidy.create_isLive_iff.mp live
    · rw [create_parent_of_isLive otherSound.tidy otherSound.rooted (mirrors.isLive before),
        create_parent_of_isLive sound.tidy sound.rooted before, mirrors.parent_eq before]
    · exact same

/-- A scope is created in both stores, inside a scope that is live in the first. -/
theorem createChild (mirrors : first.Mirrors second) (sound : first.Sound link?)
    (otherSound : second.Sound link?) {around : Handle} {name : Option String}
    (live : first.IsLive around) :
    (first.createChild around name).2.Mirrors (second.createChild around name).2 := by
  refine mirrors.create sound otherSound ?_
  have inside := @createChild_parent_new _ _ _ name otherSound.tidy (mirrors.isLive live)
  rw [mirrors.size_eq] at inside
  exact inside.trans (createChild_parent_new sound.tidy live).symm

/-- A name is bound in both stores. -/
theorem bind (mirrors : first.Mirrors second) (handle : Handle) (name : String) (value : α) :
    (first.bind handle name value).Mirrors (second.bind handle name value) where
  size_eq := by rw [bind_size, bind_size, mirrors.size_eq]
  bindings_eq := by
    intro other
    -- Whether the scope is there to bind a name in depends on the number of scopes only.
    by_cases changed : other = handle ∧ handle.index < first.scopes.size
    · obtain ⟨rfl, created⟩ := changed
      have otherCreated : other.index < second.scopes.size := mirrors.size_eq ▸ created
      rw [bind_scope_self created, bind_scope_self otherCreated, Scope.bind, Scope.bind,
        mirrors.bindings_eq]
    · rw [bind_scope_of_not changed, bind_scope_of_not (mirrors.size_eq ▸ changed),
        mirrors.bindings_eq]
  isLive := fun live => bind_isLive_iff.mpr (mirrors.isLive (bind_isLive_iff.mp live))
  parent_eq := by
    intro other live
    rw [bind_parent, bind_parent, mirrors.parent_eq (bind_isLive_iff.mp live)]

/-- Slots are pinned in both stores, not necessarily the same ones. -/
theorem withPins (mirrors : first.Mirrors second) (pins otherPins : Std.TreeSet Nat) :
    (first.withPins pins).Mirrors (second.withPins otherPins) :=
  ⟨mirrors.size_eq, mirrors.bindings_eq, mirrors.isLive, mirrors.parent_eq⟩

/-- A scope is released in the first store only, if no live scope is inside it. -/
theorem release (mirrors : first.Mirrors second) (sound : first.Sound link?) {handle : Handle}
    (childless : first.isPinned handle = false → ∀ inner, first.IsLive inner →
      first.parent inner ≠ .ok (some handle)) :
    (first.release handle).2.Mirrors second where
  size_eq := by rw [release_scopes, mirrors.size_eq]
  bindings_eq := fun other => by rw [release_scope, mirrors.bindings_eq]
  isLive := fun live => mirrors.isLive (release_isLive_iff.mp live).1
  parent_eq := by
    intro other live
    have before := (release_isLive_iff.mp live).1
    -- A live scope keeps its parent, which is not the released one.
    have evolves : first.Evolves link? none (fun _ => False) (first.release handle).2 :=
      .release sound childless
    rw [evolves.parent_eq before live, mirrors.parent_eq before]

/-- Both stores are cleared. -/
theorem clear (mirrors : first.Mirrors second) : first.clear.Mirrors second.clear where
  size_eq := mirrors.size_eq
  bindings_eq := mirrors.bindings_eq
  isLive := fun live => absurd live not_isLive_clear
  parent_eq := fun live => absurd live not_isLive_clear

end Mirrors

end Scriptlet.Store
