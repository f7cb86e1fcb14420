import Std.Data.TreeSet.Lemmas
import Scriptlet.Scope.Store

/-! # Live scopes

A scope is live while it is in its slot.  The slots, the scopes and the free list tell the same
story: the free slots are exactly the empty ones, and the scope in a slot is one that was created in
that slot. Every operation on a store keeps this up, whatever handles it is given.

Main definitions:

* `Store.IsLive`: a scope is in its slot.
* `Store.Tidy`: slots, scopes and free list agree.

Main statements: what each operation does to scopes, slots and pins, handle by handle, and that it
keeps a store tidy. -/

namespace Scriptlet.Store

variable {α : Type}

/-- A scope is live if it is in its slot. -/
def IsLive (store : Store α) (handle : Handle) : Prop :=
  store.slots[(store.scope handle).id]? = some (some handle)

/-- The slots, the scopes and the free list agree. -/
structure Tidy (store : Store α) : Prop where
  /-- What is in a slot has been created. -/
  created : ∀ {id : Nat} {handle : Handle}, store.slots[id]? = some (some handle) →
    handle.index < store.scopes.size
  /-- What is in a slot was created there. -/
  slot_eq : ∀ {id : Nat} {handle : Handle}, store.slots[id]? = some (some handle) →
    (store.scope handle).id = id
  /-- No slot is free twice. -/
  free_nodup : store.free.Nodup
  /-- The free slots are the empty ones. -/
  mem_free_iff : ∀ id : Nat, id ∈ store.free ↔ store.slots[id]? = some none

namespace Tidy

variable {store : Store α}

/-- What is in a slot is live. -/
theorem isLive (tidy : store.Tidy) {id : Nat} {handle : Handle}
    (held : store.slots[id]? = some (some handle)) : store.IsLive handle := by
  rw [IsLive, tidy.slot_eq held]
  exact held

/-- A live scope has been created. -/
theorem index_lt (tidy : store.Tidy) {handle : Handle} (live : store.IsLive handle) :
    handle.index < store.scopes.size :=
  tidy.created live

/-- The live scopes are those that are in their slots. -/
theorem mem_live_iff (tidy : store.Tidy) {handle : Handle} :
    handle ∈ store.live ↔ store.IsLive handle := by
  simp only [live, List.mem_filterMap, id_eq, exists_eq_right, Array.mem_toList_iff,
    Array.mem_iff_getElem?]
  constructor
  · rintro ⟨id, held⟩
    exact tidy.isLive held
  · intro live
    exact ⟨_, live⟩

end Tidy

/-- Two live scopes in one slot are the same. -/
theorem IsLive.eq_of_id_eq {store : Store α} {left right : Handle} (leftLive : store.IsLive left)
    (rightLive : store.IsLive right)
    (same : (store.scope left).id = (store.scope right).id) : left = right := by
  rw [IsLive] at leftLive rightLive
  rw [same, rightLive] at leftLive
  simpa using leftLive.symm

/-- The slot of a live scope leads to it. -/
theorem IsLive.resolve_eq {store : Store α} {handle : Handle} (live : store.IsLive handle) :
    store.resolve (store.scope handle).id = .ok handle := by
  rw [IsLive] at live
  simp only [resolve, live]

/-- A slot leads to what is in it. -/
theorem resolve_natCast_eq_ok_iff {store : Store α} {id : Nat} {handle : Handle} :
    store.resolve id = .ok handle ↔ store.slots[id]? = some (some handle) := by
  simp only [resolve]
  split <;> simp_all

/-! ## Creating a scope -/

/-- The slot in which the next scope is created. -/
def nextSlot (store : Store α) : Nat :=
  match store.free with
  | [] => store.slots.size
  | id :: _ => id

variable {store : Store α} {parent : Option Nat} {name : Option String}

/-- A new scope comes after all that have been created. -/
@[simp] theorem create_fst : (store.create parent name).1 = ⟨store.scopes.size⟩ := by
  obtain ⟨scopes, slots, free, pinned⟩ := store
  cases free <;> rfl

/-- A new scope is in the next slot, without bindings. -/
theorem create_scopes : (store.create parent name).2.scopes =
    store.scopes.push { id := store.nextSlot, parent, name, bindings := [] } := by
  obtain ⟨scopes, slots, free, pinned⟩ := store
  cases free <;> rfl

/-- It is not pinned, nor is any other scope by it. -/
@[simp] theorem create_pinned : (store.create parent name).2.pinned = store.pinned := by
  obtain ⟨scopes, slots, free, pinned⟩ := store
  cases free <;> rfl

/-- Its slot is no longer free. -/
theorem create_free : (store.create parent name).2.free = store.free.tail := by
  obtain ⟨scopes, slots, free, pinned⟩ := store
  cases free <;> rfl

/-- There is one scope more. -/
@[simp] theorem create_size :
    (store.create parent name).2.scopes.size = store.scopes.size + 1 := by
  rw [create_scopes, Array.size_push]

/-- A scope is created in a slot that holds none. -/
theorem Tidy.nextSlot_empty (tidy : store.Tidy) {handle : Handle} :
    store.slots[store.nextSlot]? ≠ some (some handle) := by
  rw [nextSlot]
  split
  · simp
  · rename_i id free held
    rw [(tidy.mem_free_iff id).mp (by simp [held])]
    simp

/-- The slots after the creation of a scope. -/
theorem Tidy.create_slots (tidy : store.Tidy) (id : Nat) :
    (store.create parent name).2.slots[id]? =
      if id = store.nextSlot then some (some ⟨store.scopes.size⟩) else store.slots[id]? := by
  have empty := tidy.mem_free_iff
  obtain ⟨scopes, slots, free, pinned⟩ := store
  cases free with
  | nil => exact Array.getElem?_push
  | cons next free =>
    have held : slots[next]? = some none := (empty next).mp (List.mem_cons_self ..)
    obtain ⟨bound, -⟩ := Array.getElem?_eq_some_iff.mp held
    show (slots.setIfInBounds next _)[id]? = _
    rw [Array.getElem?_setIfInBounds]
    by_cases same : id = next
    · subst same
      rw [if_pos rfl, if_pos bound, nextSlot, if_pos rfl]
    · rw [if_neg (Ne.symm same), nextSlot, if_neg same]

/-- A scope stays as it is when another one is created. -/
theorem create_scope_of_lt {handle : Handle} (created : handle.index < store.scopes.size) :
    (store.create parent name).2.scope handle = store.scope handle := by
  simp only [scope, create_scopes, Array.getD_eq_getD_getElem?, Array.getElem?_push]
  rw [if_neg (by omega)]

/-- The scope that has been created. -/
theorem create_scope_new : (store.create parent name).2.scope ⟨store.scopes.size⟩ =
    { id := store.nextSlot, parent, name, bindings := [] } := by
  simp [scope, create_scopes, Array.getD_eq_getD_getElem?]

/-- Creation keeps a store tidy. -/
theorem Tidy.create (tidy : store.Tidy) : (store.create parent name).2.Tidy where
  created := by
    intro id handle held
    rw [tidy.create_slots] at held
    rw [create_size]
    split at held
    · cases held
      exact Nat.lt_succ_self _
    · exact Nat.lt_succ_of_lt (tidy.created held)
  slot_eq := by
    intro id handle held
    rw [tidy.create_slots] at held
    split at held
    · cases held
      rename_i next
      rw [create_scope_new, next]
    · rw [create_scope_of_lt (tidy.created held), tidy.slot_eq held]
  free_nodup := by
    rw [create_free]
    exact tidy.free_nodup.tail
  mem_free_iff := by
    intro id
    rw [tidy.create_slots, create_free, nextSlot]
    have empty := tidy.mem_free_iff id
    have distinct := tidy.free_nodup
    -- The slot is a new one if none is free, and else the first free one, which is free only once.
    cases free : store.free with
    | nil =>
      simp only [free, List.not_mem_nil, false_iff] at empty
      simp only [List.tail_nil, List.not_mem_nil, false_iff]
      split
      · simp
      · exact empty
    | cons next rest =>
      rw [free] at empty distinct
      simp only [List.tail_cons]
      split
      · rename_i same
        simp [same, (List.nodup_cons.mp distinct).1]
      · rename_i other
        rw [← empty, List.mem_cons, or_iff_right other]

/-- After the creation of a scope, it is live besides those that were before. -/
theorem Tidy.create_isLive_iff (tidy : store.Tidy) {handle : Handle} :
    (store.create parent name).2.IsLive handle ↔
      store.IsLive handle ∨ handle = ⟨store.scopes.size⟩ := by
  constructor
  · intro live
    rw [IsLive, tidy.create_slots] at live
    split at live
    · cases live
      exact Or.inr rfl
    · exact Or.inl (tidy.isLive live)
  · rintro (live | rfl)
    · rw [IsLive, create_scope_of_lt (tidy.index_lt live), tidy.create_slots, if_neg]
      · exact live
      · intro next
        rw [IsLive, next] at live
        exact tidy.nextSlot_empty live
    · rw [IsLive, create_scope_new, tidy.create_slots, if_pos rfl]

/-! ## Releasing scopes -/

variable {handle : Handle}

/-- A pinned scope is not released. -/
theorem release_of_isPinned (pinned : store.isPinned handle) :
    store.release handle = (.ok (), store) := by
  rw [isPinned] at pinned
  simp only [release, pinned, if_pos]

/-- A live scope that is not pinned leaves its slot. -/
theorem IsLive.release_eq (live : store.IsLive handle) (unpinned : store.isPinned handle = false) :
    store.release handle = (.ok (), { store with
      slots := store.slots.setIfInBounds (store.scope handle).id none
      free := (store.scope handle).id :: store.free }) := by
  rw [IsLive] at live
  rw [isPinned] at unpinned
  simp only [release, unpinned, Bool.false_eq_true, if_false, live, if_pos]

/-- Nothing happens if a scope is released that is not live. -/
theorem release_snd_of_not_isLive (dead : ¬ store.IsLive handle) :
    (store.release handle).2 = store := by
  rw [IsLive] at dead
  simp only [release]
  split
  · rfl
  · split
    · rfl
    · rename_i held
      rw [held, Option.some.injEq] at dead
      rw [if_neg dead]

/-- Releasing has one of two effects: a live scope leaves its slot, or nothing changes. -/
theorem release_snd_eq_or (store : Store α) (handle : Handle) :
    (store.IsLive handle ∧ store.isPinned handle = false ∧
      (store.release handle).2 = { store with
        slots := store.slots.setIfInBounds (store.scope handle).id none
        free := (store.scope handle).id :: store.free }) ∨
    ((store.IsLive handle → store.isPinned handle = true) ∧ (store.release handle).2 = store) := by
  by_cases live : store.IsLive handle
  · cases pinned : store.isPinned handle with
    | false => exact Or.inl ⟨live, rfl, by rw [live.release_eq pinned]⟩
    | true => exact Or.inr ⟨fun _ => rfl, by rw [release_of_isPinned pinned]⟩
  · exact Or.inr ⟨fun held => absurd held live, release_snd_of_not_isLive live⟩

/-- Releasing a scope leaves it as it was, out of its slot. -/
@[simp] theorem release_scopes : (store.release handle).2.scopes = store.scopes := by
  obtain ⟨-, -, after⟩ | ⟨-, after⟩ := release_snd_eq_or store handle <;>
    rw [after]

/-- Nothing is pinned by it. -/
@[simp] theorem release_pinned : (store.release handle).2.pinned = store.pinned := by
  obtain ⟨-, -, after⟩ | ⟨-, after⟩ := release_snd_eq_or store handle <;>
    rw [after]

/-- No scope is changed by it. -/
@[simp] theorem release_scope (other : Handle) :
    (store.release handle).2.scope other = store.scope other := by
  rw [scope, release_scopes, scope]

/-- The slots after the release of a live scope. -/
theorem IsLive.release_slots (live : store.IsLive handle)
    (unpinned : store.isPinned handle = false) (id : Nat) :
    (store.release handle).2.slots[id]? =
      if id = (store.scope handle).id then some none else store.slots[id]? := by
  rw [live.release_eq unpinned, Array.getElem?_setIfInBounds]
  rw [IsLive] at live
  obtain ⟨bound, -⟩ := Array.getElem?_eq_some_iff.mp live
  by_cases same : id = (store.scope handle).id
  · rw [if_pos same.symm, if_pos bound, if_pos same]
  · rw [if_neg (Ne.symm same), if_neg same]

/-- Releasing keeps a store tidy, whatever is released. -/
theorem Tidy.release (tidy : store.Tidy) : (store.release handle).2.Tidy := by
  obtain ⟨live, unpinned, after⟩ | ⟨-, after⟩ :=
    release_snd_eq_or store handle
  · -- The slot of the scope is emptied and becomes the next free one; all others stay.
    have slots := live.release_slots unpinned
    refine ⟨?_, ?_, ?_, ?_⟩
    · intro id other held
      rw [slots] at held
      split at held
      · cases held
      · rw [release_scopes]
        exact tidy.created held
    · intro id other held
      rw [slots] at held
      split at held
      · cases held
      · rw [release_scope]
        exact tidy.slot_eq held
    · rw [after]
      refine List.nodup_cons.mpr ⟨?_, tidy.free_nodup⟩
      rw [tidy.mem_free_iff, live]
      simp
    · intro id
      rw [slots, after, List.mem_cons, tidy.mem_free_iff]
      by_cases same : id = (store.scope handle).id
      · simp [same]
      · simp [same]
  · rw [after]
    exact tidy

/-- After a release, all scopes are live that were before, except the released one. -/
theorem release_isLive_iff {other : Handle} : (store.release handle).2.IsLive other ↔
    store.IsLive other ∧ (other = handle → store.isPinned handle = true) := by
  obtain ⟨live, unpinned, after⟩ | ⟨stays, after⟩ :=
    release_snd_eq_or store handle
  · rw [IsLive, release_scope, live.release_slots unpinned]
    constructor
    · intro held
      split at held
      · cases held
      · rename_i elsewhere
        exact ⟨held, fun same => absurd (by rw [same]) elsewhere⟩
    · rintro ⟨otherLive, kept⟩
      rw [if_neg]
      · exact otherLive
      · -- Two live scopes do not share a slot.
        intro same
        have pinned := kept (otherLive.eq_of_id_eq live same)
        rw [unpinned] at pinned
        cases pinned
  · rw [after]
    constructor
    · intro otherLive
      refine ⟨otherLive, ?_⟩
      rintro rfl
      exact stays otherLive
    · exact And.left

/-- Releasing never fails in a tidy store, for a scope that has a slot. -/
theorem release_fst_of_slot {id : Nat} (slot : (store.scope handle).id = id)
    (bound : id < store.slots.size) : (store.release handle).1 = .ok () := by
  have held : store.slots[id]? = some store.slots[id] := Array.getElem?_eq_getElem bound
  simp only [release, slot, held]
  split
  · rfl
  · split <;> rfl

/-- Nothing is live in a cleared store. -/
theorem not_isLive_clear : ¬ store.clear.IsLive handle := by
  simp [IsLive, clear]

/-- A cleared store is tidy. -/
theorem tidy_clear (store : Store α) : store.clear.Tidy := by
  refine ⟨?_, ?_, ?_, ?_⟩ <;> simp [clear]

/-! ## Binding names and pinning slots -/

/-- A binding is the new one or one that was before. -/
theorem mem_bindName {key other : String} {value former : α} {bindings : List (String × α)}
    (bound : (other, former) ∈ bindName key value bindings) :
    former = value ∨ (other, former) ∈ bindings := by
  induction bindings with
  | nil =>
    simp only [bindName, List.mem_singleton, Prod.mk.injEq] at bound
    exact Or.inl bound.2
  | cons binding bindings inductionHypothesis =>
    obtain ⟨first, held⟩ := binding
    rw [bindName] at bound
    split at bound
    · obtain equal | later := List.mem_cons.mp bound
      · exact Or.inl (Prod.mk.inj equal).2
      · exact Or.inr (List.mem_cons_of_mem _ later)
    · obtain equal | later := List.mem_cons.mp bound
      · exact Or.inr (equal ▸ List.mem_cons_self ..)
      · exact (inductionHypothesis later).imp id (List.mem_cons_of_mem _)

/-- A name is bound in the same way when the values of all bindings are changed. -/
theorem map_bindName (change : α → α) (name : String) (value : α) (bindings : List (String × α)) :
    (bindName name value bindings).map (fun binding => (binding.1, change binding.2)) =
      bindName name (change value)
        (bindings.map fun binding => (binding.1, change binding.2)) := by
  induction bindings with
  | nil => rfl
  | cons binding bindings inductionHypothesis =>
    rw [List.map_cons, bindName, bindName]
    split
    · rfl
    · rw [List.map_cons, inductionHypothesis]

/-- A name is found in the same way when the values of all bindings are changed. -/
theorem lookup_map (change : α → α) (name : String) (bindings : List (String × α)) :
    (bindings.map fun binding => (binding.1, change binding.2)).lookup name =
      (bindings.lookup name).map change := by
  induction bindings with
  | nil => rfl
  | cons binding bindings inductionHypothesis =>
    rw [List.map_cons, List.lookup_cons, List.lookup_cons]
    split
    · rfl
    · exact inductionHypothesis

variable {key : String} {value : α}

/-- A binding leaves the slots. -/
@[simp] theorem bind_slots : (store.bind handle key value).slots = store.slots := rfl

/-- It leaves the pins. -/
@[simp] theorem bind_pinned : (store.bind handle key value).pinned = store.pinned := rfl

/-- It creates no scope. -/
@[simp] theorem bind_size : (store.bind handle key value).scopes.size = store.scopes.size := by
  rw [bind, Array.size_modify]

/-- The scope that a name is bound in has one binding more or a different one. -/
theorem bind_scope_self (created : handle.index < store.scopes.size) :
    (store.bind handle key value).scope handle = (store.scope handle).bind key value := by
  simp [scope, bind, Array.getD_eq_getD_getElem?, Array.getElem_modify, created]

/-- The other scopes stay as they are when a name is bound. -/
theorem bind_scope_of_ne {other : Handle} (different : other ≠ handle) :
    (store.bind handle key value).scope other = store.scope other := by
  have apart : handle.index ≠ other.index := by
    intro same
    cases handle
    cases other
    exact different (congrArg Handle.mk same.symm)
  simp [scope, bind, Array.getD_eq_getD_getElem?, Array.getElem?_modify, apart]

/-- A scope is at most changed in its bindings when a name is bound. -/
theorem bind_scope_eq_or (store : Store α) (handle : Handle) (key : String) (value : α)
    (other : Handle) :
    (other = handle ∧ handle.index < store.scopes.size ∧
      (store.bind handle key value).scope other = (store.scope handle).bind key value) ∨
    (store.bind handle key value).scope other = store.scope other := by
  by_cases same : other = handle
  · subst same
    by_cases created : other.index < store.scopes.size
    · exact Or.inl ⟨rfl, created, bind_scope_self created⟩
    · -- Binding a name in a scope that was never created does nothing.
      refine Or.inr ?_
      simp [scope, bind, Array.getD_eq_getD_getElem?, created]
  · exact Or.inr (bind_scope_of_ne same)

/-- It leaves each scope in its slot. -/
@[simp] theorem bind_scope_id (other : Handle) :
    ((store.bind handle key value).scope other).id = (store.scope other).id := by
  obtain ⟨rfl, -, after⟩ | after := bind_scope_eq_or store handle key value other <;> rw [after]
  rfl

/-- It leaves each scope inside the one around it. -/
@[simp] theorem bind_scope_parent (other : Handle) :
    ((store.bind handle key value).scope other).parent = (store.scope other).parent := by
  obtain ⟨rfl, -, after⟩ | after := bind_scope_eq_or store handle key value other <;> rw [after]
  rfl

/-- A value bound after a name has been bound is the new one or was bound before. -/
theorem mem_bindings_bind {other : Handle} {label : String} {former : α}
    (bound : (label, former) ∈ ((store.bind handle key value).scope other).bindings) :
    (other = handle ∧ former = value) ∨ (label, former) ∈ (store.scope other).bindings := by
  obtain ⟨rfl, -, after⟩ | after := bind_scope_eq_or store handle key value other
  · rw [after] at bound
    obtain equal | before := mem_bindName bound
    · exact Or.inl ⟨rfl, equal⟩
    · exact Or.inr before
  · rw [after] at bound
    exact Or.inr bound

/-- It leaves the live scopes. -/
@[simp] theorem bind_isLive_iff {other : Handle} :
    (store.bind handle key value).IsLive other ↔ store.IsLive other := by
  rw [IsLive, bind_scope_id, bind_slots, IsLive]

/-- It leaves the pinned scopes. -/
@[simp] theorem bind_isPinned (other : Handle) :
    (store.bind handle key value).isPinned other = store.isPinned other := by
  rw [isPinned, bind_scope_id, bind_pinned, isPinned]

/-- Binding a name keeps a store tidy. -/
theorem Tidy.bind (tidy : store.Tidy) : (store.bind handle key value).Tidy where
  created := by
    intro id other held
    rw [bind_size]
    exact tidy.created held
  slot_eq := by
    intro id other held
    rw [bind_scope_id]
    exact tidy.slot_eq held
  free_nodup := tidy.free_nodup
  mem_free_iff := tidy.mem_free_iff

/-- The store with other slots pinned. -/
def withPins (store : Store α) (pinned : Std.TreeSet Nat) : Store α :=
  { store with pinned }

variable {pins : Std.TreeSet Nat}

/-- Pinning changes no scope. -/
@[simp] theorem withPins_scope (other : Handle) :
    (store.withPins pins).scope other = store.scope other := rfl

/-- It leaves the live scopes. -/
@[simp] theorem withPins_isLive_iff {other : Handle} :
    (store.withPins pins).IsLive other ↔ store.IsLive other := Iff.rfl

/-- Pinning keeps a store tidy. -/
theorem Tidy.withPins (tidy : store.Tidy) : (store.withPins pins).Tidy where
  created := tidy.created
  slot_eq := tidy.slot_eq
  free_nodup := tidy.free_nodup
  mem_free_iff := tidy.mem_free_iff

end Scriptlet.Store
