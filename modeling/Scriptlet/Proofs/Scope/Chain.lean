import Scriptlet.Proofs.Scope.History
import Scriptlet.Proofs.Scope.Sound

/-! # Chains of scopes

The parent of a scope is known by its slot, which another scope can come to hold.  As long as no
scope is released that a live scope is inside, unless it is pinned, this does not happen: from every
live scope a chain of older and older scopes leads outward, and the walks along it come to an end.

Main definitions:

* `Store.Chain`: the scopes from a scope outward.
* `Store.Allows`, `Store.AllowsAll`: operations that create scopes inside live ones only, and
  release none that others are inside.

Main statements:

* `Store.exists_chain`: a live scope has a chain, if parents are in place and older.
* `Store.Chain.depth_eq`, `Store.Chain.find?_eq`, `Store.Chain.pin_fst_eq`: what the walks along a
  chain come to.
* `Store.performAll_walks`: the walks end after any operations that are allowed. -/

namespace Scriptlet.Store

variable {α : Type} {store : Store α} {handle around : Handle} {way : List Handle}

/-- The scopes from a scope outward, which ends at one that is inside none. -/
inductive Chain (store : Store α) : Handle → List Handle → Prop
  /-- The scope is inside none. -/
  | outermost {handle : Handle} (alone : store.parent handle = .ok none) :
      Chain store handle [handle]
  /-- The scope is inside another one, and the chain goes on from there. -/
  | inside {handle around : Handle} {way : List Handle}
      (inside : store.parent handle = .ok (some around)) (rest : Chain store around way) :
      Chain store handle (handle :: way)

/-- In a store in which parents are in place and older, every live scope has a chain. -/
theorem exists_chain (tidy : store.Tidy) (rooted : store.Rooted) (live : store.IsLive handle) :
    ∃ way, store.Chain handle way := by
  obtain ⟨index⟩ := handle
  induction index using Nat.strongRecOn with
  | ind index inductionHypothesis =>
    obtain ⟨outer, inside⟩ := rooted.parent_ok live
    cases outer with
    | none => exact ⟨_, .outermost inside⟩
    | some around =>
      obtain ⟨way, rest⟩ := inductionHypothesis around.index (rooted.parent_lt live inside)
        (tidy.parent_isLive inside)
      exact ⟨_, .inside inside rest⟩

/-- One step of pinning, as far as its result goes. -/
theorem IsLive.pinWithin_fst_succ (live : store.IsLive handle) {pins : Std.TreeSet Nat}
    (before : pins.contains (store.scope handle).id = false) (limit : Nat) :
    ((store.withPins pins).pinWithin (limit + 1) (some (store.scope handle).id)).1 =
      (((store.withPins (pins.insert (store.scope handle).id)).pinWithin limit
        (store.scope handle).parent).1).map (handle :: ·) := by
  have step := (withPins_isLive_iff.mpr live).pinWithin_succ before limit
  have pinned : (store.withPins pins).withPins
      ((store.withPins pins).pinned.insert (store.scope handle).id) =
        store.withPins (pins.insert (store.scope handle).id) := rfl
  rw [withPins_scope, pinned] at step
  rw [step]
  generalize pinWithin _ limit _ = walk
  obtain ⟨result, after⟩ := walk
  cases result <;> rfl

/-- The front of a list up to a first failure depends on the elements of the list only. -/
theorem takeWhile_congr {β : Type} {first second : β → Bool} {list : List β}
    (same : ∀ element ∈ list, first element = second element) :
    list.takeWhile first = list.takeWhile second := by
  induction list with
  | nil => rfl
  | cons element list inductionHypothesis =>
    obtain ⟨head, tail⟩ := List.forall_mem_cons.mp same
    rw [List.takeWhile_cons, List.takeWhile_cons, head, inductionHypothesis tail]

namespace Chain

/-- A chain begins with its scope. -/
theorem head (chain : store.Chain handle way) : ∃ rest, way = handle :: rest := by
  cases chain with
  | outermost | inside => exact ⟨_, rfl⟩

/-- All scopes of the chain of a live scope are live. -/
theorem isLive (chain : store.Chain handle way) (tidy : store.Tidy) (live : store.IsLive handle) :
    ∀ scope ∈ way, store.IsLive scope := by
  induction chain with
  | outermost => simpa using live
  | inside inside rest inductionHypothesis =>
    exact List.forall_mem_cons.mpr ⟨live, inductionHypothesis (tidy.parent_isLive inside)⟩

/-- The scopes of a chain are older and older. -/
theorem pairwise_serial (chain : store.Chain handle way) (tidy : store.Tidy)
    (rooted : store.Rooted) (live : store.IsLive handle) :
    way.Pairwise fun inner outer => outer.serial < inner.serial := by
  induction chain with
  | outermost => exact List.pairwise_singleton ..
  | @inside handle around way inside rest inductionHypothesis =>
    have older := inductionHypothesis (tidy.parent_isLive inside)
    obtain ⟨further, rfl⟩ := rest.head
    have first : around.serial < handle.serial :=
      Nat.succ_lt_succ (rooted.parent_lt live inside)
    refine List.pairwise_cons.mpr ⟨?_, older⟩
    intro scope mem
    obtain rfl | later := List.mem_cons.mp mem
    · exact first
    · exact Nat.lt_trans ((List.pairwise_cons.mp older).1 scope later) first

/-- A chain is no longer than there are slots. -/
theorem length_le (chain : store.Chain handle way) (tidy : store.Tidy) (rooted : store.Rooted)
    (live : store.IsLive handle) : way.length ≤ store.slots.size := by
  have nodup : way.Nodup := (chain.pairwise_serial tidy rooted live).imp fun older same => by
    rw [same] at older
    exact Nat.lt_irrefl _ older
  have within : way ⊆ store.live := fun scope mem =>
    tidy.mem_live_iff.mpr (chain.isLive tidy live scope mem)
  exact Nat.le_trans (nodup.subperm within).length_le store.length_live_le

/-! ## Walks along a chain -/

/-- A walk that counts scopes counts those of the chain after the first. -/
theorem depthWithin_eq (chain : store.Chain handle way) {limit : Nat}
    (enough : way.length ≤ limit) : store.depthWithin limit handle = .ok (way.length - 1) := by
  induction chain generalizing limit with
  | outermost alone =>
    obtain ⟨further, rfl⟩ := Nat.exists_eq_add_of_le' enough
    simp [depthWithin, alone]
  | inside inside rest inductionHypothesis =>
    obtain ⟨further, rfl⟩ := rest.head
    obtain ⟨limit, rfl⟩ : ∃ previous, limit = previous + 1 :=
      Nat.exists_eq_add_of_le' (Nat.le_trans (Nat.le_add_left ..) enough)
    have shorter := Nat.le_of_succ_le_succ enough
    simp [depthWithin, inside, inductionHypothesis shorter]

/-- A walk that searches for a name finds the first scope of the chain that binds it. -/
theorem findWithin?_eq (chain : store.Chain handle way) (name : String) {limit : Nat}
    (enough : way.length ≤ limit) :
    store.findWithin? name limit handle = .ok (way.find? fun scope => store.binds scope name) := by
  induction chain generalizing limit with
  | @outermost handle alone =>
    obtain ⟨further, rfl⟩ := Nat.exists_eq_add_of_le' enough
    cases binds : store.binds handle name <;>
      simp [findWithin?, alone, binds]
  | @inside handle around way inside rest inductionHypothesis =>
    obtain ⟨limit, rfl⟩ : ∃ previous, limit = previous + 1 :=
      Nat.exists_eq_add_of_le' (Nat.le_trans (Nat.le_add_left ..) enough)
    have shorter := Nat.le_of_succ_le_succ enough
    cases binds : store.binds handle name <;>
      simp [findWithin?, inside, binds, inductionHypothesis shorter]

/-- A walk that pins slots gives the scopes of the chain up to the first that is pinned. -/
theorem pinWithin_fst_eq (chain : store.Chain handle way) (tidy : store.Tidy)
    (rooted : store.Rooted) (live : store.IsLive handle) (pins : Std.TreeSet Nat) {limit : Nat}
    (enough : way.length < limit) :
    ((store.withPins pins).pinWithin limit (some (store.scope handle).id)).1 =
      .ok (way.takeWhile fun scope => !pins.contains (store.scope scope).id) := by
  induction chain generalizing limit pins with
  | @outermost handle alone =>
    obtain ⟨limit, rfl⟩ : ∃ previous, limit = previous + 2 := Nat.exists_eq_add_of_le' enough
    cases pinned : pins.contains (store.scope handle).id with
    | true => simp [pinWithin, withPins, pinned]
    | false =>
      rw [live.pinWithin_fst_succ pinned, parent_eq_ok_none_iff.mp alone]
      simp [pinWithin, pinned, Except.map]
  | @inside handle around way inside rest inductionHypothesis =>
    obtain ⟨limit, rfl⟩ := Nat.exists_eq_add_of_le' (Nat.zero_lt_of_lt enough)
    cases pinned : pins.contains (store.scope handle).id with
    | true => simp [pinWithin, withPins, pinned]
    | false =>
      have aroundLive := tidy.parent_isLive inside
      -- The new pin does not show on the scopes further out, which are in other slots.
      have apart : ∀ scope ∈ way, (!(pins.insert (store.scope handle).id).contains
          (store.scope scope).id) = !pins.contains (store.scope scope).id := by
        intro scope mem
        have older := (List.pairwise_cons.mp
          ((Chain.inside inside rest).pairwise_serial tidy rooted live)).1 scope mem
        have slots : (store.scope scope).id ≠ (store.scope handle).id := by
          intro same
          rw [(rest.isLive tidy aroundLive scope mem).eq_of_id_eq live same] at older
          exact Nat.lt_irrefl _ older
        rw [Bool.not_inj_iff, Bool.eq_iff_iff, contains_insert_iff, or_iff_right slots]
      rw [live.pinWithin_fst_succ pinned, tidy.parent_id inside,
        inductionHypothesis aroundLive _ (Nat.lt_of_succ_lt_succ enough), takeWhile_congr apart]
      simp [pinned, Except.map]

variable (chain : store.Chain handle way) (tidy : store.Tidy) (rooted : store.Rooted)
  (live : store.IsLive handle)
include chain tidy rooted live

/-- The depth of a scope is the number of scopes around it. -/
theorem depth_eq : store.depth handle = .ok (way.length - 1) :=
  chain.depthWithin_eq (Nat.le_succ_of_le (chain.length_le tidy rooted live))

/-- The search for a name gives the first scope of the chain that binds it. -/
theorem find?_eq (name : String) :
    store.find? name handle = .ok (way.find? fun scope => store.binds scope name) :=
  chain.findWithin?_eq name (Nat.le_succ_of_le (chain.length_le tidy rooted live))

/-- Pinning gives the scopes of the chain up to the first that is pinned. -/
theorem pin_fst_eq :
    (store.pin handle).1 = .ok (way.takeWhile fun scope => !store.isPinned scope) :=
  chain.pinWithin_fst_eq tidy rooted live store.pinned
    (Nat.lt_succ_of_le (Nat.le_succ_of_le (chain.length_le tidy rooted live)))

end Chain

/-! ## Operations that keep parents in place -/

/-- Whether an operation keeps parents in place: scopes are created inside live ones only, and a
scope is released only if it is pinned or no live scope is inside it. -/
def Allows (store : Store α) : Operation α → Prop
  | .child around _ => around ∈ store.live
  | .release handle => store.isPinned handle = true ∨
      ∀ inner ∈ store.live, store.parent inner ≠ .ok (some handle)
  | .root _ | .bind .. | .pin _ | .clear => True

/-- Whether operations, one after the other, keep parents in place. -/
def AllowsAll : Store α → List (Operation α) → Prop
  | _, [] => True
  | store, operation :: operations =>
    store.Allows operation ∧ (store.perform operation).AllowsAll operations

instance (store : Store α) (operation : Operation α) : Decidable (store.Allows operation) :=
  match operation with
  | .child around _ => inferInstanceAs (Decidable (around ∈ store.live))
  | .release handle => inferInstanceAs (Decidable (store.isPinned handle = true ∨
      ∀ inner ∈ store.live, store.parent inner ≠ .ok (some handle)))
  | .root _ | .bind .. | .pin _ | .clear => inferInstanceAs (Decidable True)

instance decidableAllowsAll : (store : Store α) → (operations : List (Operation α)) →
    Decidable (store.AllowsAll operations)
  | _, [] => inferInstanceAs (Decidable True)
  | store, operation :: operations =>
    have := decidableAllowsAll (store.perform operation) operations
    inferInstanceAs (Decidable (_ ∧ _))

/-- An operation that is allowed keeps parents in place and older. -/
theorem Rooted.perform (rooted : store.Rooted) (tidy : store.Tidy) {operation : Operation α}
    (allowed : store.Allows operation) : (store.perform operation).Rooted := by
  cases operation with
  | root name => exact rooted.create tidy (createRoot_placed store name)
  | child around name =>
    exact rooted.create tidy (createChild_placed tidy (tidy.mem_live_iff.mp allowed))
  | bind handle name value => exact rooted.bind
  | pin handle =>
    obtain ⟨pins, same⟩ := pin_snd_eq store handle
    rw [Store.perform, same]
    exact rooted.withPins pins
  | release handle =>
    refine rooted.release fun unpinned inner live => ?_
    obtain pinned | childless := allowed
    · rw [unpinned] at pinned
      cases pinned
    · exact childless inner (tidy.mem_live_iff.mpr live)
  | clear => exact rooted_clear store

/-- So do several, one after the other. -/
theorem Rooted.performAll (rooted : store.Rooted) (tidy : store.Tidy)
    {operations : List (Operation α)} (allowed : store.AllowsAll operations) :
    (store.performAll operations).Tidy ∧ (store.performAll operations).Rooted := by
  induction operations generalizing store with
  | nil => exact ⟨tidy, rooted⟩
  | cons operation operations inductionHypothesis =>
    obtain ⟨first, others⟩ := allowed
    exact inductionHypothesis (rooted.perform tidy first) (tidy.perform operation) others

/-- The walks from a scope go along a chain of live scopes, each older than the one before, and come
to an end. -/
structure Walks (store : Store α) (handle : Handle) (way : List Handle) : Prop where
  chain : store.Chain handle way
  isLive : ∀ scope ∈ way, store.IsLive scope
  older : way.Pairwise fun inner outer => outer.serial < inner.serial
  /-- The depth is the number of scopes around. -/
  depth_eq : store.depth handle = .ok (way.length - 1)
  /-- A scope is one deeper than the scope around it. -/
  depth_parent : ∀ {around : Handle}, store.parent handle = .ok (some around) →
    ∃ depth, store.depth around = .ok depth ∧ store.depth handle = .ok (depth + 1)
  /-- The search for a name gives the nearest scope that binds it, or none if no scope does. -/
  find?_eq : ∀ name,
    store.find? name handle = .ok (way.find? fun scope => store.binds scope name)
  /-- Pinning gives the scopes up to the first that is pinned. -/
  pin_fst_eq : (store.pin handle).1 = .ok (way.takeWhile fun scope => !store.isPinned scope)

/-- The walks from a live scope come to an end, after any operations that create scopes inside live
ones only and release none that a live scope is inside, unless it is pinned. -/
theorem performAll_walks {operations : List (Operation α)}
    (allowed : (empty : Store α).AllowsAll operations)
    (live : (empty.performAll operations).IsLive handle) :
    ∃ way, (empty.performAll operations).Walks handle way := by
  obtain ⟨tidy, rooted⟩ := (rooted_clear empty).performAll (tidy_clear empty) allowed
  obtain ⟨way, chain⟩ := exists_chain tidy rooted live
  exact ⟨way, {
    chain
    isLive := chain.isLive tidy live
    older := chain.pairwise_serial tidy rooted live
    depth_eq := chain.depth_eq tidy rooted live
    depth_parent := by
      intro around inside
      obtain ⟨rest, outward⟩ := exists_chain tidy rooted (tidy.parent_isLive inside)
      refine ⟨_, outward.depth_eq tidy rooted (tidy.parent_isLive inside), ?_⟩
      obtain ⟨further, rfl⟩ := outward.head
      exact (Chain.inside inside outward).depth_eq tidy rooted live
    find?_eq := chain.find?_eq tidy rooted live
    pin_fst_eq := chain.pin_fst_eq tidy rooted live }⟩

/-- Operations in which a slot is used again, a scope that is not live any more is released, and so
is one that is pinned and has a live scope inside it. -/
def recycledSlot : List (Operation Nat) :=
  [.root "run", .child ⟨0⟩ (some "outer"), .bind ⟨1⟩ "x" 7, .child ⟨1⟩ (some "inner"), .release ⟨2⟩,
    .child ⟨1⟩ (some "again"), .release ⟨2⟩, .pin ⟨1⟩, .release ⟨1⟩, .child ⟨3⟩ none]

/-- The youngest scope of these operations is three deep, and its name is found two scopes out. -/
theorem recycledSlot_walks :
    (∃ way, (empty.performAll recycledSlot).Walks ⟨4⟩ way) ∧
      (empty.performAll recycledSlot).depth ⟨4⟩ = .ok 3 ∧
      (empty.performAll recycledSlot).find? "x" ⟨4⟩ = .ok (some ⟨1⟩) ∧
      ((empty.performAll recycledSlot).pin ⟨4⟩).1 = .ok [⟨4⟩, ⟨3⟩] := by
  refine ⟨performAll_walks ?_ ?_, ?_, ?_, ?_⟩
  · decide
  · unfold IsLive; decide
  · decide
  · decide
  · decide

end Scriptlet.Store
