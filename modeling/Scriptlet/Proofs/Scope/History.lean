import Mathlib.Data.List.Induction
import Mathlib.Data.List.Perm.Subperm
import Scriptlet.Proofs.Scope.Reach

/-! # Histories of a store

A store keeps its books whatever is done to it, in whatever order and with whatever handles: those
of scopes that are long gone, whose slots hold other scopes by now, and those of slots that are
pinned or do not exist any more.

Main definitions:

* `Store.Operation`: what can be done to a store.
* `Store.perform`, `Store.performAll`: the store after one operation and after several.
* `Store.creation?`, `Store.ends`: the scope that an operation creates, and those that it ends.
* `History`: a store with the scopes that have been created and those that have not ended.
* `History.InOrder`: the books of a store agree with its history.

Main statements:

* `Store.Tidy.pin_ne_endless`: pinning comes to an end, whatever is pinned.
* `History.inOrder_after`: the books are in order after any operations. -/

namespace Scriptlet

namespace Store

variable {α : Type}

/-- What can be done to a store. -/
inductive Operation (α : Type)
  /-- A scope is created inside none. -/
  | root (name : String)
  /-- A scope is created inside another one. -/
  | child (around : Handle) (name : Option String)
  /-- A name is bound in a scope. -/
  | bind (handle : Handle) (name : String) (value : α)
  /-- A scope is pinned, with those around it. -/
  | pin (handle : Handle)
  /-- A scope is released. -/
  | release (handle : Handle)
  /-- All slots and pins are dropped. -/
  | clear

/-- The store after an operation; one that fails keeps what it has done so far. -/
def perform (store : Store α) : Operation α → Store α
  | .root name => (store.createRoot name).2
  | .child around name => (store.createChild around name).2
  | .bind handle name value => store.bind handle name value
  | .pin handle => (store.pin handle).2
  | .release handle => (store.release handle).2
  | .clear => store.clear

/-- The store after operations, one after the other. -/
def performAll (store : Store α) (operations : List (Operation α)) : Store α :=
  operations.foldl perform store

/-- The scope that an operation creates, if it creates one. -/
def creation? (store : Store α) : Operation α → Option Handle
  | .root name => some (store.createRoot name).1
  | .child around name => some (store.createChild around name).1
  | .bind .. | .pin _ | .release _ | .clear => none

/-- Whether an operation ends the life of a scope. -/
def ends (store : Store α) (handle : Handle) : Operation α → Bool
  | .release released => handle = released && !store.isPinned released
  | .clear => true
  | .root _ | .child .. | .bind .. | .pin _ => false

variable {store : Store α} {handle : Handle} {operation : Operation α}

/-! ## Pinning, whatever is pinned -/

/-- Pinning changes nothing but pins, also if it fails. -/
theorem pinWithin_snd_eq (store : Store α) (limit : Nat) (id? : Option Nat) :
    ∃ pins, (store.pinWithin limit id?).2 = store.withPins pins := by
  fun_induction pinWithin store limit id? with
  | case1 store | case2 store | case3 store => exact ⟨store.pinned, rfl⟩
  | case4 => exact ⟨_, rfl⟩
  | case5 store _ _ _ _ _ _ _ _ walk ih | case6 store _ _ _ _ _ _ _ _ walk ih =>
    obtain ⟨pins, same⟩ := ih
    rw [walk] at same
    exact ⟨pins, same⟩

/-- Pinning changes nothing but the pins. -/
theorem pin_snd_eq (store : Store α) (handle : Handle) :
    ∃ pins, (store.pin handle).2 = store.withPins pins :=
  pinWithin_snd_eq ..

/-- A walk that pins slots comes to an end, since each of its steps finds a slot empty or pins a
scope that was not pinned. -/
theorem pinWithin_ne_endless {limit : Nat} {id? : Option Nat} (tidy : store.Tidy)
    (enough : store.unpinned + 1 < limit) :
    (store.pinWithin limit id?).1 ≠ .error .endless := by
  -- Each round pins a scope that was not pinned, so there are fewer rounds than unpinned scopes.
  fun_induction pinWithin store limit id? with
  | case1 => omega
  | case2 | case3 | case5 =>
    intro same
    cases same
  | case4 store limit id before marked fault held =>
    simp only [resolve] at held
    split at held <;> cases held
    intro same
    cases same
  | case6 store limit id before marked around held fault after walk ih =>
    have slot : store.slots[id]? = some (some around) := resolve_natCast_eq_ok_iff.mp held
    have fewer : marked.unpinned < store.unpinned := by
      refine unpinned_lt_of_pin tidy (tidy.isLive slot) ?_ ?_ ?_
      · rw [isPinned, tidy.slot_eq slot, Bool.eq_false_iff]
        exact before
      · rw [withPins_isPinned, tidy.slot_eq slot, contains_insert_iff]
        exact Or.inl rfl
      · intro other pinned
        rw [withPins_isPinned, contains_insert_iff]
        exact Or.inr pinned
    have rest := ih tidy.withPins (by omega)
    rwa [walk] at rest

/-- Pinning comes to an end, whatever is pinned. -/
theorem Tidy.pin_ne_endless (tidy : store.Tidy) (handle : Handle) :
    (store.pin handle).1 ≠ .error .endless := by
  refine pinWithin_ne_endless tidy ?_
  have bound := store.unpinned_le
  rw [walkLimit]
  omega

/-! ## Counting live scopes -/

/-- No scope is in two slots. -/
theorem Tidy.live_nodup (tidy : store.Tidy) : store.live.Nodup := by
  rw [live, List.Nodup, List.pairwise_filterMap, List.pairwise_iff_getElem]
  intro first second firstBound secondBound ordered handle held other otherHeld same
  have slot (place : Nat) (bound : place < store.slots.toList.length) (handle : Handle)
      (held : id store.slots.toList[place] = some handle) : (store.scope handle).id = place := by
    refine tidy.slot_eq ?_
    rw [← held, id_eq, ← Array.getElem?_toList, List.getElem?_eq_getElem bound]
  have firstSlot := slot first firstBound handle held
  have secondSlot := slot second secondBound other otherHeld
  rw [same] at firstSlot
  omega

/-- The slots that are not free hold the live scopes. -/
theorem Tidy.size_eq (tidy : store.Tidy) : store.size = store.live.length := by
  have free : store.free.Perm (store.slots.toList.findIdxs (·.isNone)) := by
    refine (List.perm_ext_iff_of_nodup tidy.free_nodup List.nodup_findIdxs).mpr fun id => ?_
    rw [tidy.mem_free_iff, List.mem_findIdxs_iff_exists_getElem_pos]
    simp [Array.getElem?_eq_some_iff]
  have count := store.slots.toList.length_eq_countP_add_countP (·.isSome)
  rw [size, free.length_eq, List.length_findIdxs, live, List.length_filterMap_eq_countP,
    ← Array.length_toList]
  simp only [id_eq, Bool.not_eq_true, Option.isSome_eq_false_iff, Bool.decide_eq_true] at count ⊢
  omega

/-! ## One operation -/

/-- Any operation keeps a store tidy. -/
theorem Tidy.perform (tidy : store.Tidy) (operation : Operation α) :
    (store.perform operation).Tidy := by
  cases operation with
  | root name => exact tidy.create
  | child around name => exact tidy.create
  | bind handle name value => exact tidy.bind
  | pin handle =>
    obtain ⟨pins, same⟩ := pin_snd_eq store handle
    rw [Store.perform, same]
    exact tidy.withPins
  | release handle => exact tidy.release
  | clear => exact tidy_clear store

/-- What is live after an operation was live and has not ended, or is new. -/
theorem Tidy.perform_isLive_iff (tidy : store.Tidy) (operation : Operation α) :
    (store.perform operation).IsLive handle ↔
      (store.IsLive handle ∧ store.ends handle operation = false) ∨
        store.creation? operation = some handle := by
  cases operation with
  | root name | child around name =>
    show (store.create _ _).2.IsLive handle ↔
      (_ ∧ false = false) ∨ some (store.create _ _).1 = some handle
    rw [tidy.create_isLive_iff, create_fst, Option.some.injEq, and_iff_left rfl,
      @eq_comm _ handle]
  | bind other name value => simp [Store.perform, ends, creation?]
  | pin other =>
    obtain ⟨pins, same⟩ := pin_snd_eq store other
    simp [Store.perform, same, ends, creation?]
  | release released =>
    rw [Store.perform, release_isLive_iff]
    simp only [ends, creation?, reduceCtorEq, or_false]
    by_cases same : handle = released <;> simp [same]
  | clear => simp [Store.perform, not_isLive_clear, ends, creation?]

/-- The number of the scope created last goes up by one when a scope is created, and stays else. -/
theorem serial_perform (store : Store α) (operation : Operation α) :
    (store.perform operation).serial =
      store.serial + (store.creation? operation).toList.length := by
  cases operation with
  | root name | child around name => exact create_size
  | bind handle name value => exact bind_size
  | pin handle =>
    obtain ⟨pins, same⟩ := pin_snd_eq store handle
    rw [perform, same]
    rfl
  | release handle => rw [perform, serial, release_scopes]; rfl
  | clear => rfl

/-- A scope begins: it is the youngest of all, it has no bindings, and its slot held no scope. -/
structure Begins (store after : Store α) (new : Handle) : Prop where
  serial_eq : new.serial = store.serial + 1 ∧ after.serial = new.serial
  bindings_eq : (after.scope new).bindings = []
  vacant : ∀ other, store.slots[(after.scope new).id]? ≠ some (some other)

/-- An operation that creates a scope lets it begin. -/
theorem Tidy.begins (tidy : store.Tidy) {new : Handle}
    (creation : store.creation? operation = some new) :
    store.Begins (store.perform operation) new := by
  have begins (parent : Option Nat) (name : Option String) :
      store.Begins (store.create parent name).2 (store.create parent name).1 := by
    rw [create_fst]
    refine ⟨⟨rfl, create_size⟩, ?_, ?_⟩
    · rw [create_scope_new]
    · intro other
      rw [create_scope_new]
      exact tidy.nextSlot_empty
  cases operation with
  | root name | child around name =>
    cases creation
    exact begins _ _
  | bind | pin | release | clear => cases creation

end Store

/-! ## Histories -/

open Store (Operation)

/-- A store with what its history tells of its scopes. -/
structure History (α : Type) where
  store : Store α
  /-- The scopes that have been created, in order. -/
  issued : List Handle
  /-- The scopes that have been created and have not ended. -/
  alive : List Handle

namespace History

variable {α : Type} {history : History α}

/-- Nothing has been done. -/
def start : History α :=
  { store := .empty, issued := [], alive := [] }

/-- The history after one more operation. -/
def perform (history : History α) (operation : Operation α) : History α where
  store := history.store.perform operation
  issued := history.issued ++ (history.store.creation? operation).toList
  alive := (history.alive.filter fun handle => !history.store.ends handle operation) ++
    (history.store.creation? operation).toList

/-- The history that operations make. -/
def after (operations : List (Operation α)) : History α :=
  operations.foldl perform start

/-- The store at the end of a history is the one that its operations lead to. -/
theorem store_after (operations : List (Operation α)) :
    (after operations).store = Store.empty.performAll operations :=
  (List.foldl_hom History.store fun _ _ => rfl).symm

/-- A store and its history tell the same. -/
structure Agrees (history : History α) : Prop where
  tidy : history.store.Tidy
  issued_eq : history.issued = (List.range history.store.serial).map Handle.mk
  mem_alive_iff : ∀ {handle : Handle}, handle ∈ history.alive ↔ history.store.IsLive handle

/-- At the start nothing has been done. -/
theorem agrees_start : (start : History α).Agrees where
  tidy := Store.tidy_clear .empty
  issued_eq := rfl
  mem_alive_iff := by simp [start, Store.IsLive, Store.empty]

/-- One more operation changes a store and its history in the same way. -/
theorem Agrees.perform (agrees : history.Agrees) (operation : Operation α) :
    (history.perform operation).Agrees where
  tidy := agrees.tidy.perform operation
  issued_eq := by
    show history.issued ++ _ = (List.range (history.store.perform operation).serial).map _
    rw [Store.serial_perform, agrees.issued_eq]
    cases creation : history.store.creation? operation with
    | none => simp
    | some new =>
      obtain ⟨⟨serial_eq, -⟩, -, -⟩ := agrees.tidy.begins creation
      obtain ⟨index⟩ := new
      have index_eq : index = history.store.serial := Nat.succ.inj serial_eq
      simp [List.range_succ, index_eq]
  mem_alive_iff := by
    intro handle
    show handle ∈ _ ++ _ ↔ (history.store.perform operation).IsLive handle
    rw [agrees.tidy.perform_isLive_iff]
    simp [List.mem_filter, agrees.mem_alive_iff]

/-- A store agrees with its history, whatever has been done to it. -/
theorem agrees_after (operations : List (Operation α)) : (after operations).Agrees := by
  induction operations using List.reverseRecOn with
  | nil => exact agrees_start
  | append_singleton operations operation inductionHypothesis =>
    rw [after, List.foldl_append]
    exact inductionHypothesis.perform operation

/-- The books of a store agree with its history. -/
structure InOrder (history : History α) : Prop where
  /-- No slot is free twice. -/
  free_nodup : history.store.free.Nodup
  /-- The free slots are the empty ones. -/
  mem_free_iff : ∀ id : Nat, id ∈ history.store.free ↔ history.store.slots[id]? = some none
  /-- The scope in a slot has been created, in that slot. -/
  slot_eq : ∀ {id : Nat} {handle : Handle}, history.store.slots[id]? = some (some handle) →
    handle ∈ history.issued ∧ (history.store.scope handle).id = id
  /-- The scopes that are listed as live are those that have been created and have not ended. -/
  mem_live_iff : ∀ handle, handle ∈ history.store.live ↔ handle ∈ history.alive
  /-- Each of them is listed once. -/
  live_nodup : history.store.live.Nodup
  /-- Their number is the size of the store. -/
  size_eq : history.store.size = history.store.live.length
  /-- Scopes are numbered in the order in which they have been created. -/
  serial_lt : history.issued.Pairwise fun earlier later => earlier.serial < later.serial
  /-- No number is above that of the scope created last. -/
  serial_le : ∀ handle ∈ history.issued, handle.serial ≤ history.store.serial
  /-- A scope that is created begins. -/
  begins : ∀ {operation : Operation α} {new : Handle},
    history.store.creation? operation = some new →
      history.store.Begins (history.store.perform operation) new
  /-- Nothing happens if a scope is released that is not in its slot. -/
  release_eq : ∀ {handle : Handle}, ¬history.store.IsLive handle →
    (history.store.release handle).2 = history.store
  /-- Pinning comes to an end, also if it fails. -/
  pin_ne_endless : ∀ handle, (history.store.pin handle).1 ≠ .error .endless

/-- The books of a store are in order, whatever has been done to it: scopes created, released and
pinned, names bound, and all slots dropped, in any order and with any handles, also with those of
scopes that are not live any more. -/
theorem inOrder_after (operations : List (Operation α)) : (after operations).InOrder := by
  obtain ⟨tidy, issued_eq, mem_alive_iff⟩ := agrees_after operations
  have issued_iff : ∀ handle, handle ∈ (after operations).issued ↔
      handle.index < (after operations).store.serial := by
    rintro ⟨index⟩
    simp [issued_eq]
  exact {
    free_nodup := tidy.free_nodup
    mem_free_iff := tidy.mem_free_iff
    slot_eq := fun held => ⟨(issued_iff _).mpr (tidy.created held), tidy.slot_eq held⟩
    mem_live_iff := fun handle => by rw [tidy.mem_live_iff, mem_alive_iff]
    live_nodup := tidy.live_nodup
    size_eq := tidy.size_eq
    serial_lt := by
      rw [issued_eq, List.pairwise_map]
      exact List.pairwise_lt_range.imp Nat.succ_lt_succ
    serial_le := fun handle mem => (issued_iff handle).mp mem
    begins := tidy.begins
    release_eq := Store.release_snd_of_not_isLive
    pin_ne_endless := tidy.pin_ne_endless }

/-- A slot that is pinned after its scope has gone keeps the next scope that is created in it, and
the handle of the scope that has gone does nothing to that one. -/
example : (after (α := Unit) [.root "run", .child ⟨0⟩ none, .release ⟨1⟩, .pin ⟨1⟩, .child ⟨0⟩ none,
    .release ⟨1⟩, .release ⟨2⟩]).alive = [⟨0⟩, ⟨2⟩] := by decide

end History

end Scriptlet
