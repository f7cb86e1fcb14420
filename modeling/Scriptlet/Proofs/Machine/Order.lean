import Scriptlet.Proofs.Machine.Stake
import Scriptlet.Proofs.Scope.Evolve

/-! # The order that a run keeps

The scopes that are not pinned belong to the constructs that are being executed, and form a stack:
the innermost construct has the youngest scope, and it is the first to be released.

Main definitions:

* `Machine.Orderly`: the store is sound, its live scopes are pinned or owned, the owned ones get
  older outward, and held values are kept.
* `Machine.AtRest`: a machine runs nothing.

Main statements: what each change of a machine needs so that the order is kept. -/

namespace Scriptlet

open Stake (owned frame? depth Valid)

/-- The order of the scopes of a machine, given what is at stake in them. -/
structure Machine.Orderly (machine : Machine) (stakes : List Stake) : Prop where
  /-- Parents are in place, links lead to live scopes, pins are closed. -/
  sound : machine.store.Sound Value.scope?
  /-- Work goes on in the innermost scope, and held values are kept. -/
  valid : Valid machine.store.IsPermanent stakes
  /-- The owned scopes get older outward. -/
  sorted : (owned stakes).Pairwise fun inner outer => outer.index < inner.index
  /-- The owned scopes are live. -/
  owned_isLive : ∀ {handle : Handle}, handle ∈ owned stakes → machine.store.IsLive handle
  /-- The live scopes are pinned or owned. -/
  pinned_or_owned : ∀ {handle : Handle}, machine.store.IsLive handle →
    machine.store.isPinned handle = true ∨ handle ∈ owned stakes
  /-- The frame is the scope of the innermost call. -/
  frame_eq : machine.frame = frame? stakes
  /-- The depth is the number of calls. -/
  depth_eq : machine.callDepth = depth stakes

/-- Two machines have the same scopes and the same active calls. -/
structure Machine.SameScopes (before after : Machine) : Prop where
  store_eq : after.store = before.store
  frame_eq : after.frame = before.frame
  depth_eq : after.callDepth = before.callDepth

/-- A machine has its own scopes. -/
theorem Machine.SameScopes.refl (machine : Machine) : machine.SameScopes machine :=
  ⟨rfl, rfl, rfl⟩

/-- Scopes that are kept twice are kept. -/
theorem Machine.SameScopes.trans {before between after : Machine}
    (front : before.SameScopes between) (back : between.SameScopes after) :
    before.SameScopes after :=
  ⟨back.store_eq.trans front.store_eq, back.frame_eq.trans front.frame_eq,
    back.depth_eq.trans front.depth_eq⟩

namespace Machine.Orderly

variable {machine after : Machine} {stakes next : List Stake}

/-- The order depends on the scopes and the active calls only. -/
theorem sameScopes (orderly : machine.Orderly stakes) (same : machine.SameScopes after) :
    after.Orderly stakes := by
  obtain ⟨store_eq, frame_eq, depth_eq⟩ := same
  obtain ⟨sound, valid, sorted, owned_isLive, pinned_or_owned, frame, depth⟩ := orderly
  rw [← store_eq] at sound valid
  refine ⟨sound, valid, sorted, ?_, ?_, frame_eq.trans frame, depth_eq.trans depth⟩
  · rw [store_eq]
    exact owned_isLive
  · rw [store_eq]
    exact pinned_or_owned

/-- The order is kept when other stakes take the place of given ones, with the same scopes owned and
the same calls active. -/
theorem restake (orderly : machine.Orderly stakes) (owned_eq : owned next = owned stakes)
    (frame_eq : frame? next = frame? stakes) (depth_eq : depth next = depth stakes)
    (valid : Valid machine.store.IsPermanent next) : machine.Orderly next where
  sound := orderly.sound
  valid := valid
  sorted := by
    rw [owned_eq]
    exact orderly.sorted
  owned_isLive := by
    rw [owned_eq]
    exact orderly.owned_isLive
  pinned_or_owned := by
    rw [owned_eq]
    exact orderly.pinned_or_owned
  frame_eq := orderly.frame_eq.trans frame_eq.symm
  depth_eq := orderly.depth_eq.trans depth_eq.symm

/-- What a kept value links to is live. -/
theorem isLive_of_keptBy (orderly : machine.Orderly stakes) {value : Value} {target : Handle}
    (kept : value.KeptBy machine.store.IsPermanent (owned stakes))
    (link : value.scope? = some target) : machine.store.IsLive target := by
  obtain permanent | inside := kept target link
  · exact permanent.1
  · exact orderly.owned_isLive inside

/-- A value bound in a live scope is kept. -/
theorem keptBy_of_bound (orderly : machine.Orderly stakes) {handle : Handle} {name : String}
    {value : Value} (live : machine.store.IsLive handle)
    (bound : (name, value) ∈ (machine.store.scope handle).bindings) :
    value.KeptBy machine.store.IsPermanent (owned stakes) := by
  intro target link
  have targetLive := orderly.sound.bound_isLive live bound link
  exact (orderly.pinned_or_owned targetLive).imp (fun pinned => ⟨targetLive, pinned⟩) id

/-- An unpinned scope that is owned by the innermost construct is the youngest one. -/
theorem index_le_of_owned (orderly : machine.Orderly stakes) {scope handle : Handle}
    {rest : List Handle} (top : owned stakes = scope :: rest)
    (live : machine.store.IsLive handle) (unpinned : machine.store.isPinned handle = false) :
    handle = scope ∨ handle.index < scope.index := by
  obtain pinned | inside := orderly.pinned_or_owned live
  · rw [unpinned] at pinned
    cases pinned
  · have sorted := orderly.sorted
    rw [top] at inside sorted
    obtain same | later := List.mem_cons.mp inside
    · exact Or.inl same
    · exact Or.inr ((List.pairwise_cons.mp sorted).1 handle later)

/-- No live scope is inside the scope of the innermost construct, unless that is pinned. -/
theorem childless (orderly : machine.Orderly stakes) {scope : Handle} {rest : List Handle}
    (top : owned stakes = scope :: rest) (unpinned : machine.store.isPinned scope = false)
    (inner : Handle) (live : machine.store.IsLive inner) :
    machine.store.parent inner ≠ .ok (some scope) := by
  intro inside
  -- The parent of a pinned scope is pinned, and an unpinned scope is older than the innermost one.
  have older := orderly.sound.rooted.parent_lt live inside
  cases pinned : machine.store.isPinned inner with
  | true =>
    rw [orderly.sound.parent_isPinned live pinned inside] at unpinned
    cases unpinned
  | false =>
    obtain rfl | younger := orderly.index_le_of_owned top live pinned
    · exact absurd older (Nat.lt_irrefl _)
    · omega

/-- No value bound in another live scope links to the scope of the innermost construct, unless that
is pinned. -/
theorem unlinked (orderly : machine.Orderly stakes) {scope : Handle} {rest : List Handle}
    (top : owned stakes = scope :: rest) (unpinned : machine.store.isPinned scope = false)
    (holder : Handle) (name : String) (value : Value) (live : machine.store.IsLive holder)
    (different : holder ≠ scope)
    (bound : (name, value) ∈ (machine.store.scope holder).bindings) :
    value.scope? ≠ some scope := by
  intro link
  obtain pinned | ⟨holderUnpinned, notYounger⟩ := orderly.sound.bound_le live bound link
  · rw [unpinned] at pinned
    cases pinned
  · obtain same | younger := orderly.index_le_of_owned top live holderUnpinned
    · exact different same
    · omega

/-- A kept value that links to a scope older than that of the innermost call is kept beneath the
call. -/
theorem keptBy_beneath (orderly : machine.Orderly stakes) {value : Value} {beneath : List Stake}
    (kept : value.KeptBy machine.store.IsPermanent (owned stakes))
    (found : Stake.beneathCall? stakes = some beneath)
    (older : ∀ frame target, machine.frame = some frame → value.scope? = some target →
      target.index < frame.index) :
    value.KeptBy machine.store.IsPermanent (owned beneath) := by
  intro target link
  obtain ⟨inner, frame, innermost, split⟩ := Stake.owned_of_beneathCall? found
  have before := older frame target (orderly.frame_eq.trans innermost) link
  have sorted := orderly.sorted
  rw [split, List.pairwise_append] at sorted
  obtain permanent | inside := kept target link
  · exact Or.inl permanent
  · rw [split] at inside
    -- The owned scopes inside the call, and that of the call itself, are too young.
    obtain inCall | outside := List.mem_append.mp inside
    · have younger := sorted.2.2 target inCall frame (List.mem_cons_self ..)
      omega
    · obtain rfl | outer := List.mem_cons.mp outside
      · omega
      · exact Or.inr outer

/-- The order is kept when a scope is created that the innermost construct owns. -/
theorem create (orderly : machine.Orderly stakes) {parent : Option Nat} {name : Option String}
    (store_eq : after.store = (machine.store.create parent name).2)
    (sound : after.store.Sound Value.scope?)
    (owned_eq : owned next = ⟨machine.store.scopes.size⟩ :: owned stakes)
    (valid : Valid after.store.IsPermanent next)
    (frame_eq : after.frame = frame? next) (depth_eq : after.callDepth = depth next) :
    after.Orderly next := by
  have tidy := orderly.sound.tidy
  have isLive_iff : ∀ {handle : Handle}, after.store.IsLive handle ↔
      machine.store.IsLive handle ∨ handle = ⟨machine.store.scopes.size⟩ := by
    rw [store_eq]
    exact tidy.create_isLive_iff
  refine ⟨sound, valid, ?_, ?_, ?_, frame_eq, depth_eq⟩
  · -- The new scope is younger than all that have been created.
    rw [owned_eq]
    refine List.pairwise_cons.mpr ⟨?_, orderly.sorted⟩
    intro handle inside
    exact tidy.index_lt (orderly.owned_isLive inside)
  · intro handle inside
    rw [owned_eq] at inside
    rw [isLive_iff]
    obtain new | old := List.mem_cons.mp inside
    · exact Or.inr new
    · exact Or.inl (orderly.owned_isLive old)
  · intro handle still
    rw [owned_eq]
    obtain before | new := isLive_iff.mp still
    · rw [store_eq, Store.create_isPinned_of_lt (tidy.index_lt before)]
      exact (orderly.pinned_or_owned before).imp id (List.mem_cons_of_mem _)
    · exact Or.inr (new ▸ List.mem_cons_self ..)

/-- The order is kept when the innermost construct releases its scope. -/
theorem release (orderly : machine.Orderly stakes) {scope : Handle}
    (top : owned stakes = scope :: owned next)
    (store_eq : after.store = (machine.store.release scope).2)
    (valid : Valid machine.store.IsPermanent next)
    (frame_eq : after.frame = frame? next) (depth_eq : after.callDepth = depth next) :
    after.Orderly next := by
  have sound := orderly.sound
  have sorted := orderly.sorted
  rw [top] at sorted
  have childless := orderly.childless top
  have evolves : machine.store.Evolves Value.scope? none (fun _ => False)
      (machine.store.release scope).2 := Store.Evolves.release sound childless
  refine ⟨?_, ?_, (List.pairwise_cons.mp sorted).2, ?_, ?_, frame_eq, depth_eq⟩
  · rw [store_eq]
    exact sound.release childless (orderly.unlinked top)
  · rw [store_eq]
    exact valid.mono fun handle permanent => evolves.isPermanent permanent
  · -- The scopes further out stay: the released one is younger than each of them.
    intro handle inside
    rw [store_eq, Store.release_isLive_iff]
    refine ⟨orderly.owned_isLive (top ▸ List.mem_cons_of_mem _ inside), ?_⟩
    rintro rfl
    exact absurd ((List.pairwise_cons.mp sorted).1 handle inside) (Nat.lt_irrefl _)
  · -- The innermost scope is live after its release only if it is pinned.
    intro handle still
    rw [store_eq, Store.release_isLive_iff] at still
    rw [store_eq, Store.release_isPinned]
    obtain pinned | inside := orderly.pinned_or_owned still.1
    · exact Or.inl pinned
    · rw [top] at inside
      obtain same | later := List.mem_cons.mp inside
      · exact Or.inl (same ▸ still.2 same)
      · exact Or.inr later

/-- The order is kept when a scope and all that it reaches are pinned. -/
theorem withPins (orderly : machine.Orderly stakes) {origin : Handle} {pins : Std.TreeSet Nat}
    (contains_iff : ∀ id, pins.contains id = true ↔ machine.store.pinned.contains id = true ∨
      ∃ handle, machine.store.IsLive handle ∧ (machine.store.scope handle).id = id ∧
        machine.store.Reaches Value.scope? origin handle) :
    Machine.Orderly { machine with store := machine.store.withPins pins } stakes where
  sound := orderly.sound.withPins contains_iff
  valid := orderly.valid.mono fun _ permanent =>
    ⟨permanent.1, (contains_iff _).mpr (Or.inl permanent.2)⟩
  sorted := orderly.sorted
  owned_isLive := orderly.owned_isLive
  pinned_or_owned := fun live =>
    (orderly.pinned_or_owned live).imp (fun pinned => (contains_iff _).mpr (Or.inl pinned)) id
  frame_eq := orderly.frame_eq
  depth_eq := orderly.depth_eq

/-- The order is kept when names are bound, as long as the store stays sound. -/
theorem sameShape (orderly : machine.Orderly stakes) {store : Store Value}
    (same : Store.SameShape machine.store store) (sound : store.Sound Value.scope?) :
    Machine.Orderly { machine with store } stakes where
  sound := sound
  valid := orderly.valid.mono fun _ => same.isPermanent_iff.mpr
  sorted := orderly.sorted
  owned_isLive := fun inside => same.isLive_iff.mpr (orderly.owned_isLive inside)
  pinned_or_owned := by
    intro handle live
    rw [same.isPinned_eq]
    exact orderly.pinned_or_owned (same.isLive_iff.mp live)
  frame_eq := orderly.frame_eq
  depth_eq := orderly.depth_eq

end Machine.Orderly

/-- A machine that runs nothing: nothing is live, and no call is active. -/
structure Machine.AtRest (machine : Machine) : Prop where
  store_eq : machine.store.clear = machine.store
  frame_eq : machine.frame = none
  depth_eq : machine.callDepth = 0

/-- The first machine is at rest. -/
theorem Machine.atRest_initial : Machine.initial.AtRest :=
  ⟨rfl, rfl, rfl⟩

/-- All is in order when nothing runs. -/
theorem Machine.AtRest.orderly {machine : Machine} (rest : machine.AtRest) : machine.Orderly [] where
  sound := by
    rw [← rest.store_eq]
    exact Store.sound_clear machine.store
  valid := trivial
  sorted := List.Pairwise.nil
  owned_isLive := fun inside => absurd inside List.not_mem_nil
  pinned_or_owned := by
    rw [← rest.store_eq]
    exact fun live => absurd live Store.not_isLive_clear
  frame_eq := rest.frame_eq
  depth_eq := rest.depth_eq

end Scriptlet
