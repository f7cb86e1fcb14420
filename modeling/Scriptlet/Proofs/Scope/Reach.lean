import Mathlib.Data.List.Chain
import Scriptlet.Proofs.Scope.Walk

/-! # What keeping a scope pins

Keeping a scope pins it, the scopes around it, and the scopes that values bound in pinned scopes
link to.  The work ends although the links may go round in circles, because every round pins a slot
that was not pinned before.

Main definitions:

* `Store.Reaches`: a scope leads to another one, outward and through links.
* `Store.Linked`: parents and links of live scopes are live, those of pinned scopes are pinned.
* `Store.unpinned`: the number of live scopes that are not pinned, which bounds the work.
* `Store.Marking`: the state of the work between two rounds.

Main statements:

* `Store.exists_pin_eq`: pinning a scope pins it and the scopes around it.
* `Store.Linked.exists_retain_eq`: keeping a scope pins exactly what it reaches. -/

namespace Scriptlet.Store

variable {α : Type} {store : Store α} {link? : α → Option Handle}

/-- A scope leads to another one, outward and through links of the values bound on the way. -/
inductive Reaches (store : Store α) (link? : α → Option Handle) (origin : Handle) : Handle → Prop
  /-- A scope leads to itself. -/
  | refl : Reaches store link? origin origin
  /-- From a scope to the one around it. -/
  | outward {inner outer : Handle} (path : Reaches store link? origin inner)
      (inside : store.parent inner = .ok (some outer)) : Reaches store link? origin outer
  /-- From a scope to one that a value bound in it links to. -/
  | through {holder target : Handle} {name : String} {value : α}
      (path : Reaches store link? origin holder)
      (bound : (name, value) ∈ (store.scope holder).bindings) (link : link? value = some target) :
      Reaches store link? origin target

/-- Paths can be put together. -/
theorem Reaches.trans {first second third : Handle} (front : store.Reaches link? first second)
    (back : store.Reaches link? second third) : store.Reaches link? first third := by
  induction back with
  | refl => exact front
  | outward _ inside inductionHypothesis => exact .outward inductionHypothesis inside
  | through _ bound link inductionHypothesis => exact .through inductionHypothesis bound link

/-- Pins play no part in what a scope reaches. -/
theorem Reaches.of_withPins {pins : Std.TreeSet Nat} {origin handle : Handle}
    (path : (store.withPins pins).Reaches link? origin handle) :
    store.Reaches link? origin handle := by
  induction path with
  | refl => exact .refl
  | outward _ inside inductionHypothesis => exact .outward inductionHypothesis inside
  | through _ bound link inductionHypothesis => exact .through inductionHypothesis bound link

/-- Parents and links of live scopes are live, and those of pinned scopes are pinned. -/
structure Linked (store : Store α) (link? : α → Option Handle) : Prop where
  /-- The slots, the scopes and the free list agree. -/
  tidy : store.Tidy
  /-- A live scope has its parent in its place, if it has one. -/
  parent_ok : ∀ {handle : Handle}, store.IsLive handle →
    ∃ around, store.parent handle = .ok around
  /-- A value bound in a live scope links to a live scope. -/
  bound_isLive : ∀ {handle target : Handle} {name : String} {value : α}, store.IsLive handle →
    (name, value) ∈ (store.scope handle).bindings → link? value = some target →
    store.IsLive target
  /-- The scope around a pinned scope is pinned. -/
  parent_isPinned : ∀ {handle around : Handle}, store.IsLive handle →
    store.isPinned handle = true → store.parent handle = .ok (some around) →
    store.isPinned around = true
  /-- A value bound in a pinned scope links to a pinned scope. -/
  bound_isPinned : ∀ {handle target : Handle} {name : String} {value : α}, store.IsLive handle →
    store.isPinned handle = true → (name, value) ∈ (store.scope handle).bindings →
    link? value = some target → store.isPinned target = true

/-- What a live scope reaches is live. -/
theorem Linked.isLive_of_reaches (linked : store.Linked link?) {origin handle : Handle}
    (live : store.IsLive origin) (path : store.Reaches link? origin handle) :
    store.IsLive handle := by
  induction path with
  | refl => exact live
  | outward _ inside _ => exact linked.tidy.parent_isLive inside
  | through _ bound link inductionHypothesis =>
    exact linked.bound_isLive inductionHypothesis bound link

/-! ## Pinning a scope and those around it -/

/-- The number of live scopes that are not pinned. -/
def unpinned (store : Store α) : Nat :=
  store.live.countP fun handle => !store.isPinned handle

/-- There are no more scopes to pin than slots. -/
theorem unpinned_le (store : Store α) : store.unpinned ≤ store.slots.size :=
  Nat.le_trans List.countP_le_length store.length_live_le

/-- What is pinned after one more is that one or pinned before. -/
theorem contains_insert_iff {pins : Std.TreeSet Nat} {id other : Nat} :
    (pins.insert id).contains other = true ↔ other = id ∨ pins.contains other = true := by
  rw [Std.TreeSet.contains_insert, Bool.or_eq_true, beq_iff_eq, Nat.compare_eq_eq, eq_comm]

/-- A scope is pinned if its slot is. -/
theorem withPins_isPinned (store : Store α) (pins : Std.TreeSet Nat) (handle : Handle) :
    (store.withPins pins).isPinned handle = pins.contains (store.scope handle).id := rfl

/-- With a live scope pinned that was not, there is less left to pin. -/
theorem unpinned_lt_of_pin {pins : Std.TreeSet Nat} {handle : Handle} (tidy : store.Tidy)
    (live : store.IsLive handle) (before : store.isPinned handle = false)
    (after : (store.withPins pins).isPinned handle = true)
    (grows : ∀ other, store.isPinned other = true → (store.withPins pins).isPinned other = true) :
    (store.withPins pins).unpinned < store.unpinned := by
  refine countP_lt_countP ?_ (tidy.mem_live_iff.mpr live) ?_ ?_
  · intro other _ still
    rw [Bool.not_eq_true'] at still ⊢
    cases pinned : store.isPinned other with
    | false => rfl
    | true => rw [grows other pinned] at still; cases still
  · rw [after, Bool.not_true]
  · rw [before, Bool.not_false]

/-- What pinning a scope has done: the slots pinned after it are those pinned before and those of
the scopes that it gives, each of which is around the scope, and there is no gap on the way outward. -/
structure Pins (store : Store α) (link? : α → Option Handle) (origin : Handle)
    (handles : List Handle) (pins : Std.TreeSet Nat) : Prop where
  /-- The slots that are pinned. -/
  contains_iff : ∀ id, pins.contains id = true ↔
    store.pinned.contains id = true ∨ ∃ handle ∈ handles, (store.scope handle).id = id
  /-- What is newly pinned is live. -/
  isLive : ∀ {handle : Handle}, handle ∈ handles → store.IsLive handle
  /-- What is newly pinned was not pinned. -/
  fresh : ∀ {handle : Handle}, handle ∈ handles → store.isPinned handle = false
  /-- Nothing is newly pinned twice. -/
  nodup : handles.Nodup
  /-- What is newly pinned begins with the scope. -/
  head : ∀ first ∈ handles.head?, first = origin
  /-- After each scope that is newly pinned comes the one around it. -/
  isChain : handles.IsChain fun inner outer => store.parent inner = .ok (some outer)
  /-- What is newly pinned is around the scope. -/
  reaches : ∀ {handle : Handle}, handle ∈ handles → store.Reaches link? origin handle
  /-- The scope is pinned. -/
  origin_isPinned : (store.withPins pins).isPinned origin = true
  /-- The scope around a newly pinned one is pinned. -/
  parent_isPinned : ∀ {handle around : Handle}, handle ∈ handles →
    store.parent handle = .ok (some around) → (store.withPins pins).isPinned around = true

/-- Nothing is pinned anew if the scope is pinned. -/
theorem pins_of_isPinned {origin : Handle} (pinned : store.isPinned origin = true) :
    store.Pins link? origin [] store.pinned where
  contains_iff := by simp
  isLive := by simp
  fresh := by simp
  nodup := .nil
  head := by simp
  isChain := .nil
  reaches := by simp
  origin_isPinned := pinned
  parent_isPinned := by simp

/-- Pinning the outermost scope. -/
theorem pins_of_outermost {origin : Handle} (live : store.IsLive origin)
    (before : store.isPinned origin = false) (outermost : store.parent origin = .ok none) :
    store.Pins link? origin [origin] (store.pinned.insert (store.scope origin).id) where
  contains_iff := by
    intro id
    rw [contains_insert_iff, or_comm, @eq_comm _ id]
    simp only [List.mem_singleton, exists_eq_left]
  isLive := by simpa using live
  fresh := by simpa using before
  nodup := by simp
  head := by simp
  isChain := .singleton _
  reaches := by
    intro handle mem
    rw [List.mem_singleton.mp mem]
    exact .refl
  origin_isPinned := by
    rw [withPins_isPinned, contains_insert_iff]
    exact Or.inl rfl
  parent_isPinned := by
    intro handle around mem inside
    rw [List.mem_singleton.mp mem, outermost] at inside
    cases inside

/-- Pinning a scope after its slot and before the scopes around it. -/
theorem Pins.cons {origin around : Handle} {handles : List Handle} {pins : Std.TreeSet Nat}
    (live : store.IsLive origin) (before : store.isPinned origin = false)
    (inside : store.parent origin = .ok (some around))
    (rest : (store.withPins (store.pinned.insert (store.scope origin).id)).Pins link? around
      handles pins) :
    store.Pins link? origin (origin :: handles) pins where
  contains_iff := by
    intro id
    rw [rest.contains_iff]
    show (store.pinned.insert (store.scope origin).id).contains id = true ∨ _ ↔ _
    rw [contains_insert_iff]
    simp only [withPins_scope, List.mem_cons, exists_eq_or_imp]
    rw [or_assoc, or_left_comm, @eq_comm _ id]
  isLive := by
    intro handle mem
    obtain rfl | later := List.mem_cons.mp mem
    · exact live
    · exact rest.isLive later
  fresh := by
    intro handle mem
    obtain rfl | later := List.mem_cons.mp mem
    · exact before
    · have unpinned := rest.fresh later
      rw [withPins_isPinned, ← Bool.not_eq_true, contains_insert_iff, not_or] at unpinned
      rw [isPinned, ← Bool.not_eq_true]
      exact unpinned.2
  nodup := by
    refine List.nodup_cons.mpr ⟨fun later => ?_, rest.nodup⟩
    have unpinned := rest.fresh later
    rw [withPins_isPinned, ← Bool.not_eq_true, contains_insert_iff, not_or] at unpinned
    exact unpinned.1 rfl
  head := by simp
  -- The walk goes on with the scope around the pinned one.
  isChain := by
    refine List.isChain_cons.mpr ⟨fun first mem => ?_, rest.isChain⟩
    rw [rest.head first mem]
    exact inside
  -- Whatever the rest reaches in the store with one more pin, it reaches without.
  reaches := by
    intro handle mem
    obtain rfl | later := List.mem_cons.mp mem
    · exact .refl
    · exact Reaches.trans (.outward .refl inside) (rest.reaches later).of_withPins
  origin_isPinned := by
    rw [withPins_isPinned, rest.contains_iff]
    refine Or.inl ?_
    show (store.pinned.insert (store.scope origin).id).contains _ = true
    rw [contains_insert_iff]
    exact Or.inl rfl
  parent_isPinned := by
    intro handle outer mem outside
    obtain rfl | later := List.mem_cons.mp mem
    · rw [inside] at outside
      cases outside
      exact rest.origin_isPinned
    · exact rest.parent_isPinned later outside

/-- One step of pinning: the slot is pinned before the walk goes on outward. -/
theorem IsLive.pinWithin_succ {origin : Handle} (live : store.IsLive origin)
    (before : store.isPinned origin = false) (limit : Nat) :
    store.pinWithin (limit + 1) (some (store.scope origin).id) =
      match (store.withPins (store.pinned.insert (store.scope origin).id)).pinWithin limit
          (store.scope origin).parent with
      | (.ok handles, after) => (.ok (origin :: handles), after)
      | (.error fault, after) => (.error fault, after) := by
  rw [isPinned] at before
  have resolved : (store.withPins (store.pinned.insert (store.scope origin).id)).resolve
      (store.scope origin).id = .ok origin := live.resolve_eq
  rw [pinWithin, if_neg (by simp [before])]
  simp only [withPins] at resolved ⊢
  rw [resolved]
  rfl

/-- Pinning a scope pins it and those around it, up to the first that is pinned, if the limit is
above the number of scopes that can be pinned. -/
theorem exists_pinWithin_eq {limit : Nat} {origin : Handle} (tidy : store.Tidy)
    (parent_ok : ∀ {handle : Handle}, store.IsLive handle →
      ∃ around, store.parent handle = .ok around)
    (live : store.IsLive origin) (enough : store.unpinned + 1 < limit) :
    ∃ handles pins, store.pinWithin limit (some (store.scope origin).id) =
      (.ok handles, store.withPins pins) ∧ store.Pins link? origin handles pins := by
  induction limit generalizing store origin with
  | zero => omega
  | succ limit inductionHypothesis =>
    cases pinned : store.isPinned origin with
    | true =>
      refine ⟨[], store.pinned, ?_, pins_of_isPinned pinned⟩
      rw [pinWithin, if_pos (by rwa [isPinned] at pinned)]
      rfl
    | false =>
      rw [live.pinWithin_succ pinned]
      obtain ⟨around, inside⟩ := parent_ok live
      cases around with
      | none =>
        refine ⟨[origin], _, ?_, pins_of_outermost live pinned inside⟩
        rw [parent_eq_ok_none_iff.mp inside]
        -- The walk needs one more round to see that there is nothing further out.
        obtain ⟨previous, rfl⟩ : ∃ previous, limit = previous + 1 := ⟨limit - 1, by omega⟩
        rfl
      | some around =>
        have fewer : (store.withPins (store.pinned.insert (store.scope origin).id)).unpinned <
            store.unpinned := by
          refine unpinned_lt_of_pin tidy live pinned ?_ ?_
          · rw [withPins_isPinned, contains_insert_iff]
            exact Or.inl rfl
          · intro other before
            rw [withPins_isPinned, contains_insert_iff]
            exact Or.inr before
        have marked : (store.withPins (store.pinned.insert (store.scope origin).id)).Tidy :=
          tidy.withPins
        obtain ⟨handles, pins, walk, rest⟩ := inductionHypothesis marked parent_ok
          (withPins_isLive_iff.mpr (tidy.parent_isLive inside)) (by omega)
        refine ⟨origin :: handles, pins, ?_, Pins.cons live pinned inside rest⟩
        rw [withPins_scope] at walk
        rw [tidy.parent_id inside, walk]
        rfl

/-- Pinning a scope pins it and those around it, up to the first that is pinned. -/
theorem exists_pin_eq (link? : α → Option Handle) {origin : Handle} (tidy : store.Tidy)
    (parent_ok : ∀ {handle : Handle}, store.IsLive handle →
      ∃ around, store.parent handle = .ok around)
    (live : store.IsLive origin) : ∃ handles pins,
      store.pin origin = (.ok handles, store.withPins pins) ∧
        store.Pins link? origin handles pins := by
  refine exists_pinWithin_eq tidy parent_ok live ?_
  have bound := store.unpinned_le
  rw [walkLimit]
  omega

/-! ## Keeping a scope and all that it reaches -/

/-- The state of the work between two rounds: what is pinned so far, and the scopes still to be
pinned. What has been pinned is reached, and what a pinned scope links to is pinned or still to be. -/
structure Marking (store : Store α) (link? : α → Option Handle) (origin : Handle)
    (pins : Std.TreeSet Nat) (pending : List Handle) : Prop where
  /-- What was pinned stays pinned. -/
  grows : ∀ id, store.pinned.contains id = true → pins.contains id = true
  /-- What has been pinned is reached. -/
  reached : ∀ id, pins.contains id = true → store.pinned.contains id = true ∨
    ∃ handle, store.IsLive handle ∧ (store.scope handle).id = id ∧
      store.Reaches link? origin handle
  /-- The scope around a pinned scope is pinned. -/
  parent_isPinned : ∀ {handle around : Handle}, store.IsLive handle →
    (store.withPins pins).isPinned handle = true → store.parent handle = .ok (some around) →
    (store.withPins pins).isPinned around = true
  /-- What a pinned scope links to is pinned or still to be. -/
  bound_isPinned : ∀ {handle target : Handle} {name : String} {value : α}, store.IsLive handle →
    (store.withPins pins).isPinned handle = true →
    (name, value) ∈ (store.scope handle).bindings → link? value = some target →
    (store.withPins pins).isPinned target = true ∨ target ∈ pending
  /-- What is still to be pinned is reached. -/
  pending_reached : ∀ {handle : Handle}, handle ∈ pending → store.IsLive handle ∧
    store.Reaches link? origin handle
  /-- The scope that is kept is pinned or still to be. -/
  origin_isPinned : (store.withPins pins).isPinned origin = true ∨ origin ∈ pending

/-- Before the first round only the kept scope is still to be pinned. -/
theorem Linked.marking (linked : store.Linked link?) {origin : Handle}
    (live : store.IsLive origin) : store.Marking link? origin store.pinned [origin] where
  grows := fun _ => id
  reached := fun _ => Or.inl
  parent_isPinned := linked.parent_isPinned
  bound_isPinned := fun holderLive pinned bound link =>
    Or.inl (linked.bound_isPinned holderLive pinned bound link)
  pending_reached := by
    intro handle mem
    rw [List.mem_singleton.mp mem]
    exact ⟨live, .refl⟩
  origin_isPinned := Or.inr (List.mem_singleton.mpr rfl)

/-- Scopes that are pinned already can be left out of those still to be pinned. -/
theorem Marking.drop {origin : Handle} {pins : Std.TreeSet Nat} {done pending : List Handle}
    (marking : store.Marking link? origin pins (done ++ pending))
    (pinned : ∀ handle ∈ done, (store.withPins pins).isPinned handle = true) :
    store.Marking link? origin pins pending where
  grows := marking.grows
  reached := marking.reached
  parent_isPinned := marking.parent_isPinned
  bound_isPinned := by
    intro handle target name value live holder bound link
    obtain already | later := marking.bound_isPinned live holder bound link
    · exact Or.inl already
    · obtain early | late := List.mem_append.mp later
      · exact Or.inl (pinned target early)
      · exact Or.inr late
  pending_reached := fun mem => marking.pending_reached (List.mem_append_right _ mem)
  origin_isPinned := by
    obtain already | later := marking.origin_isPinned
    · exact Or.inl already
    · obtain early | late := List.mem_append.mp later
      · exact Or.inl (pinned origin early)
      · exact Or.inr late

/-- The scopes to be pinned for the sake of newly pinned ones. -/
theorem mem_links {handles : List Handle} {target : Handle} :
    target ∈ store.links link? handles ↔ (∃ handle ∈ handles, ∃ name value,
      (name, value) ∈ (store.scope handle).bindings ∧ link? value = some target) ∧
      store.isPinned target = false := by
  simp [links, List.mem_flatMap, List.mem_filterMap]

/-- One round: a scope and those around it are pinned, and what they link to is still to be. -/
theorem Marking.pin (linked : store.Linked link?) {origin next : Handle}
    {pins after : Std.TreeSet Nat} {pending handles : List Handle}
    (marking : store.Marking link? origin pins (next :: pending))
    (pinning : (store.withPins pins).Pins link? next handles after) :
    store.Marking link? origin after
      ((store.withPins after).links link? handles ++ pending) := by
  have nextReached := marking.pending_reached (List.mem_cons_self ..)
  have stays : ∀ handle, (store.withPins pins).isPinned handle = true →
      (store.withPins after).isPinned handle = true :=
    fun handle before => (pinning.contains_iff _).mpr (Or.inl before)
  have origins : ∀ handle, store.IsLive handle → (store.withPins after).isPinned handle = true →
      (store.withPins pins).isPinned handle = true ∨ handle ∈ handles := by
    intro handle live pinned
    obtain before | ⟨other, mem, same⟩ := (pinning.contains_iff _).mp pinned
    · exact Or.inl before
    · exact Or.inr ((pinning.isLive mem).eq_of_id_eq live same ▸ mem)
  -- What is pinned after the round was pinned before it or is among `handles`; each part of the
  -- invariant holds for the former by the invariant before, and for the latter by what pinning
  -- does.
  refine ⟨?_, ?_, ?_, ?_, ?_, ?_⟩
  · intro id before
    exact (pinning.contains_iff id).mpr (Or.inl (marking.grows id before))
  · intro id pinned
    obtain before | ⟨handle, mem, same⟩ := (pinning.contains_iff id).mp pinned
    · exact marking.reached id before
    · exact Or.inr ⟨handle, pinning.isLive mem, same,
        nextReached.2.trans (pinning.reaches mem).of_withPins⟩
  · intro handle around live pinned inside
    obtain before | mem := origins handle live pinned
    · exact stays around (marking.parent_isPinned live before inside)
    · exact pinning.parent_isPinned mem inside
  · intro handle target name value live pinned bound link
    obtain before | mem := origins handle live pinned
    · obtain already | later := marking.bound_isPinned live before bound link
      · exact Or.inl (stays target already)
      · obtain rfl | rest := List.mem_cons.mp later
        · exact Or.inl pinning.origin_isPinned
        · exact Or.inr (List.mem_append_right _ rest)
    · cases already : (store.withPins after).isPinned target with
      | true => exact Or.inl rfl
      | false =>
        refine Or.inr (List.mem_append_left _ (mem_links.mpr ⟨?_, already⟩))
        exact ⟨handle, mem, name, value, bound, link⟩
  · intro handle mem
    obtain fresh | rest := List.mem_append.mp mem
    · obtain ⟨⟨holder, holderMem, name, value, bound, link⟩, -⟩ := mem_links.mp fresh
      have path := nextReached.2.trans (pinning.reaches holderMem).of_withPins
      exact ⟨linked.bound_isLive (pinning.isLive holderMem) bound link, .through path bound link⟩
    · exact marking.pending_reached (List.mem_cons_of_mem _ rest)
  · obtain already | later := marking.origin_isPinned
    · exact Or.inl (stays origin already)
    · obtain rfl | rest := List.mem_cons.mp later
      · exact Or.inl pinning.origin_isPinned
      · exact Or.inr (List.mem_append_right _ rest)

/-- Once nothing is left to be pinned, exactly what is reached has been pinned. -/
theorem Marking.contains_iff {origin : Handle} {pins : Std.TreeSet Nat}
    (linked : store.Linked link?) (marking : store.Marking link? origin pins [])
    (live : store.IsLive origin) (id : Nat) :
    pins.contains id = true ↔ store.pinned.contains id = true ∨
      ∃ handle, store.IsLive handle ∧ (store.scope handle).id = id ∧
        store.Reaches link? origin handle := by
  have originPinned : (store.withPins pins).isPinned origin = true := by
    obtain pinned | later := marking.origin_isPinned
    · exact pinned
    · cases later
  -- With nothing left to be pinned, the pins are closed under both ways to reach a scope.
  have all : ∀ {handle : Handle}, store.Reaches link? origin handle →
      (store.withPins pins).isPinned handle = true := by
    intro handle path
    induction path with
    | refl => exact originPinned
    | outward path inside inductionHypothesis =>
      exact marking.parent_isPinned (linked.isLive_of_reaches live path) inductionHypothesis inside
    | through path bound link inductionHypothesis =>
      obtain pinned | later := marking.bound_isPinned (linked.isLive_of_reaches live path)
        inductionHypothesis bound link
      · exact pinned
      · cases later
  constructor
  · exact marking.reached id
  · rintro (before | ⟨handle, -, rfl, path⟩)
    · exact marking.grows id before
    · exact all path

/-- The work ends with nothing left to be pinned, if there are more rounds than scopes to pin, and
further rounds change nothing. -/
theorem Marking.exists_retainWithin_eq (linked : store.Linked link?) {origin : Handle}
    {pins : Std.TreeSet Nat} {pending : List Handle} {limit : Nat}
    (marking : store.Marking link? origin pins pending)
    (enough : (store.withPins pins).unpinned < limit) :
    ∃ after, (∀ further, (store.withPins pins).retainWithin link? (limit + further) pending =
      (.ok (), store.withPins after)) ∧ store.Marking link? origin after [] := by
  induction limit generalizing pins pending with
  | zero => omega
  | succ limit inductionHypothesis =>
    -- What is pinned already is dropped; the first scope that is not decides the round.
    have done : ∀ handle ∈ pending.takeWhile (store.withPins pins).isPinned,
        (store.withPins pins).isPinned handle = true :=
      List.all_eq_true.mp List.all_takeWhile
    rw [← List.takeWhile_append_dropWhile (p := (store.withPins pins).isPinned) (l := pending)]
      at marking
    replace marking := marking.drop done
    cases rest : pending.dropWhile (store.withPins pins).isPinned with
    | nil =>
      rw [rest] at marking
      refine ⟨pins, fun further => ?_, marking⟩
      rw [Nat.add_right_comm, retainWithin, rest]
    | cons next others =>
      rw [rest] at marking
      have live := (marking.pending_reached (List.mem_cons_self ..)).1
      have fresh : (store.withPins pins).isPinned next = false := by
        have head := List.head?_dropWhile_not (store.withPins pins).isPinned pending
        rw [rest] at head
        simpa using head
      have tidy : (store.withPins pins).Tidy := linked.tidy.withPins
      obtain ⟨handles, after, walk, pinning⟩ :=
        exists_pin_eq link? tidy linked.parent_ok (withPins_isLive_iff.mpr live)
      have fewer : (store.withPins after).unpinned < (store.withPins pins).unpinned :=
        unpinned_lt_of_pin tidy (withPins_isLive_iff.mpr live) fresh pinning.origin_isPinned
          fun other before => (pinning.contains_iff _).mpr (Or.inl before)
      obtain ⟨last, run, finished⟩ := inductionHypothesis (marking.pin linked pinning) (by omega)
      refine ⟨last, fun further => ?_, finished⟩
      rw [Nat.add_right_comm, retainWithin, rest]
      simp only [walk]
      exact run further

/-- Keeping a scope pins exactly what it reaches, and changes nothing else.  Rounds past the limit
would change nothing. -/
theorem Linked.exists_retainWithin_eq (linked : store.Linked link?) {origin : Handle}
    (live : store.IsLive origin) : ∃ pins,
      (∀ further, store.retainWithin link? (store.slots.size + 1 + further) [origin] =
        (.ok (), store.withPins pins)) ∧
      ∀ id, pins.contains id = true ↔ store.pinned.contains id = true ∨
        ∃ handle, store.IsLive handle ∧ (store.scope handle).id = id ∧
          store.Reaches link? origin handle := by
  have enough : (store.withPins store.pinned).unpinned < store.slots.size + 1 :=
    Nat.lt_succ_of_le store.unpinned_le
  obtain ⟨pins, run, finished⟩ := (linked.marking live).exists_retainWithin_eq linked enough
  exact ⟨pins, run, finished.contains_iff linked live⟩

/-- Keeping a scope pins exactly what it reaches, and changes nothing else. -/
theorem Linked.exists_retain_eq (linked : store.Linked link?) {origin : Handle}
    (live : store.IsLive origin) : ∃ pins,
      store.retain link? origin = (.ok (), store.withPins pins) ∧
      ∀ id, pins.contains id = true ↔ store.pinned.contains id = true ∨
        ∃ handle, store.IsLive handle ∧ (store.scope handle).id = id ∧
          store.Reaches link? origin handle := by
  obtain ⟨pins, run, contains_iff⟩ := linked.exists_retainWithin_eq live
  exact ⟨pins, run 0, contains_iff⟩

end Scriptlet.Store
