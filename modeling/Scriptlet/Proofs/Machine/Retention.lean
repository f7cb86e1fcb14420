import Mathlib.Order.Bounds.Defs
import Scriptlet.Machine.Action
import Scriptlet.Proofs.Scope.History

/-! # What keeping a function pins

A function is kept with the scope of its declaration and with everything that its body could come to
see: the scopes around it, and those of the functions bound on the way, which may well lead back to
where the work began.  Nothing else is kept.

Main definitions:

* `Store.Closed`: no scope of a set leads out of it.
* `Store.PinsAnew`: what pinning a scope gives and does.
* `Action.Keeps`: what keeping a function does.

Main statements:

* `Store.isLeast_reaches`: what a scope reaches is the least closed set that has the scope in it.
* `Action.retain_keeps`: keeping a function pins the least closed set that has its scope in it. -/

namespace Scriptlet

namespace Store

variable {α : Type} {store : Store α} {link? : α → Option Handle} {origin handle : Handle}

/-- No scope of a set leads out of it, neither outward nor through a link of a value bound in it. -/
structure Closed (store : Store α) (link? : α → Option Handle) (scopes : Set Handle) : Prop where
  outward : ∀ {inner outer : Handle}, inner ∈ scopes → store.parent inner = .ok (some outer) →
    outer ∈ scopes
  through : ∀ {holder target : Handle} {name : String} {value : α}, holder ∈ scopes →
    (name, value) ∈ (store.scope holder).bindings → link? value = some target → target ∈ scopes

/-- What a scope of a closed set reaches is in the set. -/
theorem Reaches.mem_of_closed (path : store.Reaches link? origin handle) {scopes : Set Handle}
    (closed : store.Closed link? scopes) (mem : origin ∈ scopes) : handle ∈ scopes := by
  induction path with
  | refl => exact mem
  | outward _ inside inductionHypothesis => exact closed.outward inductionHypothesis inside
  | through _ bound link inductionHypothesis =>
    exact closed.through inductionHypothesis bound link

/-- What a scope reaches is the least closed set that has the scope in it. -/
theorem isLeast_reaches (store : Store α) (link? : α → Option Handle) (origin : Handle) :
    IsLeast {scopes | origin ∈ scopes ∧ store.Closed link? scopes}
      {handle | store.Reaches link? origin handle} := by
  constructor
  · exact ⟨.refl, { outward := .outward, through := .through }⟩
  · rintro scopes ⟨mem, closed⟩ handle path
    exact path.mem_of_closed closed mem

/-- Pinning a scope gives the scopes that were not pinned before, from that scope outward, and pins
their slots. -/
structure PinsAnew (store : Store α) (origin : Handle) (handles : List Handle)
    (pins : Std.TreeSet Nat) : Prop where
  pin_eq : store.pin origin = (.ok handles, store.withPins pins)
  /-- What is given is what was not pinned and is pinned now. -/
  mem_iff : ∀ handle, handle ∈ handles ↔ store.IsLive handle ∧ store.isPinned handle = false ∧
    (store.withPins pins).isPinned handle = true
  nodup : handles.Nodup
  /-- The scope itself comes first, unless it was pinned. -/
  head?_eq : handles.head? = if store.isPinned origin then none else some origin
  /-- After each scope comes the one around it. -/
  isChain : handles.IsChain fun inner outer => store.parent inner = .ok (some outer)
  /-- The slots that are pinned now. -/
  contains_iff : ∀ id, pins.contains id = true ↔
    store.pinned.contains id = true ∨ ∃ handle ∈ handles, (store.scope handle).id = id

/-- What has been pinned, walking outward from a live scope, is what the walk gives. -/
theorem Pins.pinsAnew {handles : List Handle} {pins : Std.TreeSet Nat}
    (pinning : store.Pins link? origin handles pins) (live : store.IsLive origin)
    (walk : store.pin origin = (.ok handles, store.withPins pins)) :
    store.PinsAnew origin handles pins := by
  have mem_iff : ∀ handle, handle ∈ handles ↔ store.IsLive handle ∧
      store.isPinned handle = false ∧ (store.withPins pins).isPinned handle = true := by
    intro handle
    constructor
    · intro mem
      exact ⟨pinning.isLive mem, pinning.fresh mem,
        (pinning.contains_iff _).mpr (Or.inr ⟨handle, mem, rfl⟩)⟩
    · rintro ⟨handleLive, before, after⟩
      obtain pinned | ⟨other, mem, same⟩ := (pinning.contains_iff _).mp after
      · exact absurd pinned (Bool.eq_false_iff.mp before)
      · rwa [(pinning.isLive mem).eq_of_id_eq handleLive same] at mem
  refine ⟨walk, mem_iff, pinning.nodup, ?_, pinning.isChain, pinning.contains_iff⟩
  cases before : store.isPinned origin with
  | true =>
    rw [if_pos rfl, List.head?_eq_none_iff, List.eq_nil_iff_forall_not_mem]
    intro handle mem
    -- The first of several would be the scope itself, which was pinned.
    obtain ⟨first, first_eq⟩ := Option.isSome_iff_exists.mp
      (List.isSome_head?.mpr (List.ne_nil_of_mem mem))
    have fresh := pinning.fresh (List.mem_of_mem_head? first_eq)
    rw [pinning.head first first_eq, before] at fresh
    cases fresh
  | false =>
    have mem := (mem_iff origin).mpr ⟨live, before, pinning.origin_isPinned⟩
    obtain ⟨first, first_eq⟩ := Option.isSome_iff_exists.mp
      (List.isSome_head?.mpr (List.ne_nil_of_mem mem))
    rw [first_eq, pinning.head first first_eq]
    rfl

/-- A store is linked if that is so of each of the scopes that it lists as live. -/
theorem Tidy.linked (tidy : store.Tidy)
    (outward : ∀ inner ∈ store.live, ∃ outer ∈ none :: store.live.map some,
      store.parent inner = .ok outer ∧
        (store.isPinned inner = true → outer.all store.isPinned = true))
    (through : ∀ holder ∈ store.live,
      ∀ target ∈ (store.scope holder).bindings.filterMap fun (_, value) => link? value,
        target ∈ store.live ∧ (store.isPinned holder = true → store.isPinned target = true)) :
    store.Linked link? := by
  have links : ∀ {holder target : Handle} {name : String} {value : α}, store.IsLive holder →
      (name, value) ∈ (store.scope holder).bindings → link? value = some target →
      target ∈ store.live ∧ (store.isPinned holder = true → store.isPinned target = true) :=
    fun live bound link => through _ (tidy.mem_live_iff.mpr live) _
      (List.mem_filterMap.mpr ⟨_, bound, link⟩)
  refine ⟨tidy, ?_, ?_, ?_, ?_⟩
  · intro handle live
    obtain ⟨around, -, inside, -⟩ := outward handle (tidy.mem_live_iff.mpr live)
    exact ⟨around, inside⟩
  · intro handle target name value live bound link
    exact tidy.mem_live_iff.mp (links live bound link).1
  · intro handle around live pinned inside
    obtain ⟨outer, -, same, pins⟩ := outward handle (tidy.mem_live_iff.mpr live)
    rw [same, Except.ok.injEq] at inside
    subst inside
    exact pins pinned
  · intro handle target name value live pinned bound link
    exact (links live bound link).2 pinned

end Store

namespace Action

variable {machine : Machine} {closure : Closure}

open Store (Operation)

/-- A function has been kept: a set of scopes has been pinned, and nothing else has changed. -/
structure Keeps (machine : Machine) (closure : Closure) (kept : Set Handle)
    (pins : Std.TreeSet Nat) : Prop where
  /-- The set has the scope of the declaration in it, no scope leads out of it, neither outward nor
  through a function bound in it, and there is no smaller such set. -/
  isLeast :
    IsLeast {scopes | closure.scope ∈ scopes ∧ machine.store.Closed Value.scope? scopes} kept
  isLive : ∀ handle ∈ kept, machine.store.IsLive handle
  /-- The slots that are pinned are those that were, and those of the set. -/
  contains_iff : ∀ id, pins.contains id = true ↔ machine.store.pinned.contains id = true ∨
    ∃ handle ∈ kept, (machine.store.scope handle).id = id
  retain_eq : retain closure machine =
    .ok () { machine with store := machine.store.withPins pins }
  /-- The work has come to an end: with more rounds allowed, nothing else would have happened. -/
  rounds_eq : ∀ limit > machine.store.slots.size,
    machine.store.retainWithin Value.scope? limit [closure.scope] =
      (.ok (), machine.store.withPins pins)

/-- Keeping a function ends, and it pins the least set of scopes that has the scope of its
declaration in it and out of which no scope leads, neither outward nor through a function bound in
it.  Pinning alone gives the scopes that were not pinned, innermost first.  Parents may enclose each
other and functions may capture each other: all that is asked is that parents and links are live, and
pinned for pinned scopes.  That the store is tidy is so after any operations
(`History.agrees_after`). -/
theorem retain_keeps (linked : machine.store.Linked Value.scope?)
    (live : machine.store.IsLive closure.scope) :
    (∃ kept pins, Keeps machine closure kept pins) ∧
      ∀ handle, machine.store.IsLive handle →
        ∃ handles pins, machine.store.PinsAnew handle handles pins := by
  constructor
  · obtain ⟨pins, run, contains_iff⟩ := linked.exists_retainWithin_eq live
    have keptLive : ∀ handle, machine.store.Reaches Value.scope? closure.scope handle →
        machine.store.IsLive handle := fun handle path => linked.isLive_of_reaches live path
    -- What is reached from the scope of the closure is the least closed set that holds it.
    refine ⟨_, pins, Store.isLeast_reaches .., keptLive, ?_, ?_, ?_⟩
    · intro id
      rw [contains_iff]
      constructor
      · rintro (before | ⟨handle, -, same, path⟩)
        · exact Or.inl before
        · exact Or.inr ⟨handle, path, same⟩
      · rintro (before | ⟨handle, path, same⟩)
        · exact Or.inl before
        · exact Or.inr ⟨handle, keptLive handle path, same, path⟩
    · rw [retain, update, show machine.store.retain _ _ = _ from run 0]
    · intro limit enough
      obtain ⟨further, rfl⟩ := Nat.exists_eq_add_of_le enough
      exact run further
  · intro handle handleLive
    obtain ⟨handles, pins, walk, pinning⟩ :=
      Store.exists_pin_eq Value.scope? linked.tidy linked.parent_ok handleLive
    exact ⟨handles, pins, pinning.pinsAnew handleLive walk⟩

/-- A function without statements, declared in a given scope. -/
def declaredIn (scope : Handle) : Closure :=
  { identity := scope.index, name := "f", parameters := [], body := [], scope }

/-- Three scopes inside a pinned one, two of which bind each other's functions, and the last its
own. -/
def capturing : List (Operation Value) :=
  [.root "run", .child ⟨0⟩ "first", .child ⟨0⟩ "second", .child ⟨0⟩ "third", .pin ⟨0⟩,
    .bind ⟨1⟩ "f" (.function (declaredIn ⟨2⟩)), .bind ⟨2⟩ "f" (.function (declaredIn ⟨1⟩)),
    .bind ⟨3⟩ "f" (.function (declaredIn ⟨3⟩))]

/-- A machine with these scopes. -/
def capturingMachine : Machine :=
  { Machine.initial with store := Store.empty.performAll capturing }

/-- Keeping the function of the first scope pins that scope and the second one, not the third. -/
theorem capturing_keeps :
    ((∃ kept pins, Keeps capturingMachine (declaredIn ⟨1⟩) kept pins) ∧
      ∀ handle, capturingMachine.store.IsLive handle →
        ∃ handles pins, capturingMachine.store.PinsAnew handle handles pins) ∧
      (capturingMachine.store.retain Value.scope? ⟨1⟩).2.pinned.toList = [0, 1, 2] ∧
      (capturingMachine.store.pin ⟨3⟩).1 = .ok [⟨3⟩] := by
  have tidy : capturingMachine.store.Tidy := by
    have agrees := (History.agrees_after capturing).tidy
    rwa [History.store_after] at agrees
  refine ⟨retain_keeps (tidy.linked ?_ ?_) ?_, ?_, ?_⟩
  · decide
  · decide
  · unfold Store.IsLive; decide
  · decide
  · decide

end Action

end Scriptlet
