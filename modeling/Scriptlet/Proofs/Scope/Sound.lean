import Scriptlet.Proofs.Scope.Reach

/-! # Stores of running programs

What holds of the store of a running program, and what each operation needs so that it goes on to
hold.

Main definitions:

* `Store.Sound`: parents are in place and older, links lead to live scopes, pins are closed, and a
  value that links to a scope which is not pinned is bound in no older scope and in no pinned one.

Main statements: `Store.Sound.createChild`, `Store.Sound.bind`, `Store.Sound.withPins`,
`Store.Sound.release` say when an operation keeps a store sound. -/

namespace Scriptlet.Store

variable {α : Type} {store : Store α} {link? : α → Option Handle}

/-- What holds of the store of a running program. -/
structure Sound (store : Store α) (link? : α → Option Handle) : Prop where
  /-- The slots, the scopes and the free list agree. -/
  tidy : store.Tidy
  /-- Parents are in place and older. -/
  rooted : store.Rooted
  /-- A pinned slot holds a scope. -/
  pinned_held : ∀ {id : Nat}, store.pinned.contains id = true →
    ∃ handle, store.slots[id]? = some (some handle)
  /-- The scope around a pinned scope is pinned. -/
  parent_isPinned : ∀ {handle around : Handle}, store.IsLive handle →
    store.isPinned handle = true → store.parent handle = .ok (some around) →
    store.isPinned around = true
  /-- A value bound in a live scope links to a live scope. -/
  bound_isLive : ∀ {handle target : Handle} {name : String} {value : α}, store.IsLive handle →
    (name, value) ∈ (store.scope handle).bindings → link? value = some target →
    store.IsLive target
  /-- A value links to a pinned scope, or is bound in a scope that is released no later. -/
  bound_le : ∀ {handle target : Handle} {name : String} {value : α}, store.IsLive handle →
    (name, value) ∈ (store.scope handle).bindings → link? value = some target →
    store.isPinned target = true ∨
      (store.isPinned handle = false ∧ target.index ≤ handle.index)

/-- Parents and links of a sound store are live, and those of pinned scopes are pinned. -/
theorem Sound.linked (sound : store.Sound link?) : store.Linked link? where
  tidy := sound.tidy
  parent_ok := sound.rooted.parent_ok
  bound_isLive := sound.bound_isLive
  parent_isPinned := sound.parent_isPinned
  bound_isPinned := by
    intro handle target name value live pinned bound link
    obtain already | ⟨unpinned, -⟩ := sound.bound_le live bound link
    · exact already
    · rw [pinned] at unpinned
      cases unpinned

/-- The slot of the next scope is not pinned, since it is empty. -/
theorem Sound.nextSlot_not_pinned (sound : store.Sound link?) :
    store.pinned.contains store.nextSlot = false := by
  rw [← Bool.not_eq_true]
  intro pinned
  obtain ⟨handle, held⟩ := sound.pinned_held pinned
  exact sound.tidy.nextSlot_empty held

/-- In an empty store there are no parents. -/
theorem rooted_clear (store : Store α) : store.clear.Rooted where
  parent_ok := fun live => absurd live not_isLive_clear
  parent_lt := fun live => absurd live not_isLive_clear

/-- An empty store is sound. -/
theorem sound_clear (store : Store α) : store.clear.Sound link? where
  tidy := tidy_clear store
  rooted := rooted_clear store
  pinned_held := by
    intro id pinned
    simp [clear] at pinned
  parent_isPinned := fun live => absurd live not_isLive_clear
  bound_isLive := fun live => absurd live not_isLive_clear
  bound_le := fun live => absurd live not_isLive_clear

/-! ## Creating a scope -/

section Create

variable {around handle : Handle} {parent : Option Nat} {name : Option String}

/-- The scopes around a live scope stay when another scope is created. -/
theorem create_parent_of_isLive (tidy : store.Tidy) (rooted : store.Rooted)
    (live : store.IsLive handle) :
    (store.create parent name).2.parent handle = store.parent handle := by
  obtain ⟨around, inside⟩ := rooted.parent_ok live
  rw [inside]
  cases around with
  | none =>
    rw [parent_eq_ok_none_iff, create_scope_of_lt (tidy.index_lt live)]
    exact parent_eq_ok_none_iff.mp inside
  | some around =>
    obtain ⟨id, named, held⟩ := parent_eq_ok_some_iff.mp inside
    rw [parent_eq_ok_some_iff, create_scope_of_lt (tidy.index_lt live)]
    refine ⟨id, named, ?_⟩
    rw [tidy.create_slots, if_neg]
    · exact held
    · rintro rfl
      exact tidy.nextSlot_empty held

/-- A new scope is inside the one that it was created in. -/
theorem createChild_parent_new (tidy : store.Tidy) (live : store.IsLive around) :
    (store.createChild around name).2.parent ⟨store.scopes.size⟩ = .ok (some around) := by
  rw [createChild, parent_eq_ok_some_iff, create_scope_new]
  refine ⟨(store.scope around).id, rfl, ?_⟩
  rw [tidy.create_slots, if_neg]
  · exact live
  · intro same
    rw [IsLive, same] at live
    exact tidy.nextSlot_empty live

/-- A scope created inside a live one has it as its parent, which is older. -/
theorem createChild_placed (tidy : store.Tidy) (live : store.IsLive around) :
    ∃ outer, (store.createChild around name).2.parent ⟨store.scopes.size⟩ = .ok outer ∧
      ∀ scope, outer = some scope → scope.index < store.scopes.size := by
  refine ⟨some around, createChild_parent_new tidy live, ?_⟩
  rintro scope ⟨⟩
  exact tidy.index_lt live

/-- A scope created inside none has no parent. -/
theorem createRoot_placed (store : Store α) (label : String) :
    ∃ outer, (store.createRoot label).2.parent ⟨store.scopes.size⟩ = .ok outer ∧
      ∀ scope, outer = some scope → scope.index < store.scopes.size := by
  refine ⟨none, ?_, nofun⟩
  rw [createRoot, parent_eq_ok_none_iff, create_scope_new]

/-- Parents stay in place and older when a scope is created whose parent is so. -/
theorem Rooted.create (rooted : store.Rooted) (tidy : store.Tidy)
    (placed : ∃ around, (store.create parent name).2.parent ⟨store.scopes.size⟩ = .ok around ∧
      ∀ outer, around = some outer → outer.index < store.scopes.size) :
    (store.create parent name).2.Rooted where
  parent_ok := by
    intro handle live
    obtain before | rfl := tidy.create_isLive_iff.mp live
    · rw [create_parent_of_isLive tidy rooted before]
      exact rooted.parent_ok before
    · obtain ⟨around, inside, -⟩ := placed
      exact ⟨around, inside⟩
  parent_lt := by
    intro handle outer live inside
    obtain before | rfl := tidy.create_isLive_iff.mp live
    · rw [create_parent_of_isLive tidy rooted before] at inside
      exact rooted.parent_lt before inside
    · obtain ⟨around, place, older⟩ := placed
      rw [place] at inside
      cases inside
      exact older outer rfl

/-- A scope is pinned after the creation of another one exactly if it was before. -/
theorem create_isPinned_of_lt (created : handle.index < store.scopes.size) :
    (store.create parent name).2.isPinned handle = store.isPinned handle := by
  rw [isPinned, create_scope_of_lt created, create_pinned, isPinned]

/-- A new scope is not pinned. -/
theorem Sound.create_isPinned_new (sound : store.Sound link?) :
    (store.create parent name).2.isPinned ⟨store.scopes.size⟩ = false := by
  rw [isPinned, create_scope_new, create_pinned]
  exact sound.nextSlot_not_pinned

/-- A store stays sound when a scope is created whose parent is in place. -/
theorem Sound.create (sound : store.Sound link?)
    (placed : ∃ around, (store.create parent name).2.parent ⟨store.scopes.size⟩ = .ok around ∧
      ∀ outer, around = some outer → outer.index < store.scopes.size) :
    (store.create parent name).2.Sound link? := by
  have tidy := sound.tidy
  -- In each part the scope in question is an old one, for which nothing has changed, or the new
  -- one, which has no bindings and is not pinned.
  refine ⟨tidy.create, sound.rooted.create tidy placed, ?_, ?_, ?_, ?_⟩
  · intro id pinned
    rw [create_pinned] at pinned
    obtain ⟨handle, held⟩ := sound.pinned_held pinned
    refine ⟨handle, ?_⟩
    rw [tidy.create_slots, if_neg]
    · exact held
    · rintro rfl
      exact tidy.nextSlot_empty held
  · intro handle outer live pinned inside
    obtain before | rfl := tidy.create_isLive_iff.mp live
    · rw [create_parent_of_isLive tidy sound.rooted before] at inside
      rw [create_isPinned_of_lt (tidy.index_lt before)] at pinned
      rw [create_isPinned_of_lt (tidy.index_lt (tidy.parent_isLive inside))]
      exact sound.parent_isPinned before pinned inside
    · rw [sound.create_isPinned_new] at pinned
      cases pinned
  · intro handle target key value live bound link
    obtain before | rfl := tidy.create_isLive_iff.mp live
    · rw [create_scope_of_lt (tidy.index_lt before)] at bound
      exact tidy.create_isLive_iff.mpr (Or.inl (sound.bound_isLive before bound link))
    · rw [create_scope_new] at bound
      cases bound
  · intro handle target key value live bound link
    obtain before | rfl := tidy.create_isLive_iff.mp live
    · rw [create_scope_of_lt (tidy.index_lt before)] at bound
      have targetLive := sound.bound_isLive before bound link
      rw [create_isPinned_of_lt (tidy.index_lt before),
        create_isPinned_of_lt (tidy.index_lt targetLive)]
      exact sound.bound_le before bound link
    · rw [create_scope_new] at bound
      cases bound

/-- A store stays sound when a scope is created inside a live one. -/
theorem Sound.createChild (sound : store.Sound link?) (live : store.IsLive around) :
    (store.createChild around name).2.Sound link? :=
  sound.create (createChild_placed sound.tidy live)

/-- A store stays sound when a scope is created inside none. -/
theorem Sound.createRoot (sound : store.Sound link?) (label : String) :
    (store.createRoot label).2.Sound link? :=
  sound.create (createRoot_placed store label)

end Create

/-! ## Binding a name -/

section Bind

variable {holder handle : Handle} {key : String} {value : α}

/-- A binding leaves what each scope is inside of. -/
@[simp] theorem bind_parent (handle : Handle) :
    (store.bind holder key value).parent handle = store.parent handle := by
  simp only [parent, bind_scope_parent, resolve, bind_slots]

/-- Parents stay in place and older when a name is bound. -/
theorem Rooted.bind (rooted : store.Rooted) : (store.bind holder key value).Rooted where
  parent_ok := by
    intro handle live
    rw [bind_parent]
    exact rooted.parent_ok (bind_isLive_iff.mp live)
  parent_lt := by
    intro handle around live inside
    rw [bind_parent] at inside
    exact rooted.parent_lt (bind_isLive_iff.mp live) inside

/-- A store stays sound when a value is bound that links to a pinned scope, or to a live scope that
is released no earlier than the one it is bound in. -/
theorem Sound.bind (sound : store.Sound link?)
    (kept : ∀ target, link? value = some target → store.IsLive target ∧
      (store.isPinned target = true ∨
        (store.isPinned holder = false ∧ target.index ≤ holder.index))) :
    (store.bind holder key value).Sound link? := by
  refine ⟨sound.tidy.bind, sound.rooted.bind, ?_, ?_, ?_, ?_⟩
  · exact sound.pinned_held
  · intro handle around live pinned inside
    rw [bind_parent] at inside
    rw [bind_isPinned] at pinned ⊢
    exact sound.parent_isPinned (bind_isLive_iff.mp live) pinned inside
  · intro handle target name former live bound link
    rw [bind_isLive_iff] at live ⊢
    obtain ⟨rfl, rfl⟩ | before := mem_bindings_bind bound
    · exact (kept target link).1
    · exact sound.bound_isLive live before link
  · intro handle target name former live bound link
    rw [bind_isLive_iff] at live
    rw [bind_isPinned, bind_isPinned]
    obtain ⟨rfl, rfl⟩ | before := mem_bindings_bind bound
    · exact (kept target link).2
    · exact sound.bound_le live before link

end Bind

/-! ## Keeping and releasing scopes -/

/-- Pins play no part in where parents are. -/
theorem Rooted.withPins (rooted : store.Rooted) (pins : Std.TreeSet Nat) :
    (store.withPins pins).Rooted :=
  ⟨rooted.parent_ok, rooted.parent_lt⟩

/-- A store stays sound when a scope and all that it reaches are pinned. -/
theorem Sound.withPins (sound : store.Sound link?) {origin : Handle} {pins : Std.TreeSet Nat}
    (contains_iff : ∀ id, pins.contains id = true ↔ store.pinned.contains id = true ∨
      ∃ handle, store.IsLive handle ∧ (store.scope handle).id = id ∧
        store.Reaches link? origin handle) : (store.withPins pins).Sound link? := by
  have grows : ∀ handle, store.isPinned handle = true →
      (store.withPins pins).isPinned handle = true :=
    fun handle before => (contains_iff _).mpr (Or.inl before)
  have causes : ∀ handle, store.IsLive handle → (store.withPins pins).isPinned handle = true →
      store.isPinned handle = true ∨ store.Reaches link? origin handle := by
    intro handle live pinned
    obtain before | ⟨other, otherLive, same, path⟩ := (contains_iff _).mp pinned
    · exact Or.inl before
    · exact Or.inr (otherLive.eq_of_id_eq live same ▸ path)
  refine ⟨sound.tidy.withPins, sound.rooted.withPins pins, ?_, ?_, sound.bound_isLive, ?_⟩
  · intro id pinned
    obtain before | ⟨handle, live, rfl, -⟩ := (contains_iff id).mp pinned
    · exact sound.pinned_held before
    · exact ⟨handle, live⟩
  · intro handle around live pinned inside
    obtain before | path := causes handle live pinned
    · exact grows around (sound.parent_isPinned live before inside)
    · exact (contains_iff _).mpr
        (Or.inr ⟨around, sound.tidy.parent_isLive inside, rfl, .outward path inside⟩)
  -- A holder that is pinned now reaches the target, unless it was pinned before.
  · intro handle target name value live bound link
    cases pinned : (store.withPins pins).isPinned handle with
    | false =>
      obtain already | ⟨-, older⟩ := sound.bound_le live bound link
      · exact Or.inl (grows target already)
      · exact Or.inr ⟨rfl, older⟩
    | true =>
      refine Or.inl ?_
      obtain before | path := causes handle live pinned
      · exact grows target (sound.linked.bound_isPinned live before bound link)
      · exact (contains_iff _).mpr
          (Or.inr ⟨target, sound.bound_isLive live bound link, rfl, .through path bound link⟩)

section Release

variable {handle other : Handle}

/-- The scopes around a live scope stay unless one of them is released. -/
theorem release_parent (rooted : store.Rooted) (live : store.IsLive other)
    (outlived : store.parent other ≠ .ok (some handle)) :
    (store.release handle).2.parent other = store.parent other := by
  obtain ⟨released, unpinned, -⟩ | ⟨-, after⟩ := release_snd_eq_or store handle
  · obtain ⟨around, inside⟩ := rooted.parent_ok live
    rw [inside]
    cases around with
    | none =>
      rw [parent_eq_ok_none_iff, release_scope]
      exact parent_eq_ok_none_iff.mp inside
    | some around =>
      obtain ⟨id, named, held⟩ := parent_eq_ok_some_iff.mp inside
      rw [parent_eq_ok_some_iff, release_scope]
      refine ⟨id, named, ?_⟩
      rw [released.release_slots unpinned, if_neg]
      · exact held
      · -- The slot of the parent is not the one that is emptied, as that is held by another scope.
        rintro rfl
        rw [released] at held
        cases held
        exact outlived inside
  · rw [after]

/-- Releasing a scope leaves the pinned scopes. -/
@[simp] theorem release_isPinned (other : Handle) :
    (store.release handle).2.isPinned other = store.isPinned other := by
  rw [isPinned, release_scope, release_pinned, isPinned]

/-- Parents stay in place and older when a scope is released, if no live scope is inside it, unless
it is pinned. -/
theorem Rooted.release (rooted : store.Rooted)
    (childless : store.isPinned handle = false → ∀ inner, store.IsLive inner →
      store.parent inner ≠ .ok (some handle)) : (store.release handle).2.Rooted := by
  cases pinned : store.isPinned handle with
  | true =>
    rw [release_of_isPinned pinned]
    exact rooted
  | false =>
    have parents : ∀ inner, store.IsLive inner →
        (store.release handle).2.parent inner = store.parent inner := fun inner live =>
      release_parent rooted live (childless pinned inner live)
    refine ⟨?_, ?_⟩
    · intro inner live
      have before := (release_isLive_iff.mp live).1
      rw [parents inner before]
      exact rooted.parent_ok before
    · intro inner around live inside
      have before := (release_isLive_iff.mp live).1
      rw [parents inner before] at inside
      exact rooted.parent_lt before inside

/-- A store stays sound when a scope is released, if no other live scope is inside it and no value
bound in another live scope links to it, unless it is pinned. -/
theorem Sound.release (sound : store.Sound link?)
    (childless : store.isPinned handle = false → ∀ inner, store.IsLive inner →
      store.parent inner ≠ .ok (some handle))
    (unlinked : store.isPinned handle = false → ∀ holder name value, store.IsLive holder →
      holder ≠ handle → (name, value) ∈ (store.scope holder).bindings →
      link? value ≠ some handle) :
    (store.release handle).2.Sound link? := by
  cases pinned : store.isPinned handle with
  | true =>
    rw [release_of_isPinned pinned]
    exact sound
  | false =>
    have parents : ∀ inner, store.IsLive inner →
        (store.release handle).2.parent inner = store.parent inner := fun inner live =>
      release_parent sound.rooted live (childless pinned inner live)
    -- What is live afterwards was live before and is another scope.
    have apart : ∀ inner, (store.release handle).2.IsLive inner →
        store.IsLive inner ∧ inner ≠ handle := by
      intro inner live
      obtain ⟨before, stays⟩ := release_isLive_iff.mp live
      refine ⟨before, ?_⟩
      rintro rfl
      rw [stays rfl] at pinned
      cases pinned
    refine ⟨sound.tidy.release, sound.rooted.release childless, ?_, ?_, ?_, ?_⟩
    · intro id held
      rw [release_pinned] at held
      obtain ⟨other, place⟩ := sound.pinned_held held
      have slot := sound.tidy.slot_eq place
      have live : (store.release handle).2.IsLive other := by
        refine release_isLive_iff.mpr ⟨sound.tidy.isLive place, ?_⟩
        rintro rfl
        rw [isPinned, slot]
        exact held
      refine ⟨other, ?_⟩
      rw [IsLive, release_scope, slot] at live
      exact live
    · intro inner around live held inside
      rw [parents inner (apart inner live).1] at inside
      rw [release_isPinned] at held ⊢
      exact sound.parent_isPinned (apart inner live).1 held inside
    · intro holder target name value live bound link
      rw [release_scope] at bound
      obtain ⟨before, different⟩ := apart holder live
      refine release_isLive_iff.mpr ⟨sound.bound_isLive before bound link, ?_⟩
      rintro rfl
      exact absurd link (unlinked pinned holder name value before different bound)
    · intro holder target name value live bound link
      rw [release_scope] at bound
      rw [release_isPinned, release_isPinned]
      exact sound.bound_le (apart holder live).1 bound link

end Release

end Scriptlet.Store
