import Scriptlet.Proofs.Machine.Course

/-! # The lifetime of scopes

A scope lives as long as anything refers to it, and no longer than that without a reason.

Main definitions:

* `State.CreatesInside`: a step creates a scope inside another one.
* `ScopesInPlace`: at a moment of a run, all that refers to a scope finds that very scope in its
  slot.
* `Control.Begins`, `Control.Ends`: an expression or a statement is about to begin, or has ended.
* `ScopesAccounted`: at a moment of a run, every live scope is pinned for a reason or belongs to a
  construct that is being executed, and what has ended has left nothing else.

Main statements: `Machine.course_scopesInPlace` and `Machine.course_scopesAccounted`, for every
moment of every run. -/

namespace Scriptlet

/-! ## Nothing refers to a scope that is gone -/

/-- A step creates a scope inside another one: inside the scope that the construct it enters stands
in, or, for the first round of a loop that begins with it, inside the new scope of the loop. -/
def State.CreatesInside (before after : State) (handle around : Handle) : Prop :=
  before.machine.store.serial < handle.serial ∧ handle.serial ≤ after.machine.store.serial ∧
    (before.site? = some around ∨
      around.serial = before.machine.store.serial + 1 ∧ handle.serial = around.serial + 1)

/-- At a moment of a run, all that refers to a scope finds that very scope in its slot. -/
structure ScopesInPlace (history : Nat → State) (now : Nat) : Prop where
  /-- The slot of a parent holds the older scope inside which a live scope was created. -/
  parent_held : ∀ handle ∈ (history now).machine.store.live, ∀ id,
    ((history now).machine.store.scope handle).parent = some id →
    ∃ around, (history now).machine.store.resolve id = .ok around ∧
      around.serial < handle.serial ∧
      ∃ earlier < now, (history earlier).CreatesInside (history (earlier + 1)) handle around
  /-- A function bound in a live scope finds the scope of its declaration. -/
  bound_held : ∀ handle ∈ (history now).machine.store.live, ∀ name closure,
    (name, .function closure) ∈ ((history now).machine.store.scope handle).bindings →
    (history now).machine.store.resolve ((history now).machine.store.scope closure.scope).id =
      .ok closure.scope
  /-- A function that is held as an operand, as an argument or as a result finds the scope of its
  declaration. -/
  value_held : ∀ closure, .function closure ∈ Stake.values (history now).control.stakes →
    (history now).machine.store.resolve ((history now).machine.store.scope closure.scope).id =
      .ok closure.scope
  /-- A pinned slot holds a scope whose parent is pinned, as are the scopes of the functions bound
  in it. -/
  pinned_held : ∀ id, (history now).machine.store.pinned.contains id = true →
    ∃ handle, (history now).machine.store.resolve id = .ok handle ∧
      (∀ outer, ((history now).machine.store.scope handle).parent = some outer →
        (history now).machine.store.pinned.contains outer = true) ∧
      ∀ name closure,
        (name, .function closure) ∈ ((history now).machine.store.scope handle).bindings →
        (history now).machine.store.isPinned closure.scope = true

namespace Machine

variable {settings : Settings} {body : List Node} {machine : Machine}

/-- Nothing is around a scope that is live when a run starts. -/
theorem start_parent (rest : machine.AtRest) {handle : Handle}
    (live : (State.start body machine).machine.store.IsLive handle) :
    (State.start body machine).machine.store.parent handle = .ok none := by
  have created : (machine.store.create none (some Store.rootName)).2.IsLive handle := live
  obtain before | rfl := rest.orderly.sound.tidy.create_isLive_iff.mp created
  · rw [← rest.store_eq] at before
    exact absurd before Store.not_isLive_clear
  · show (machine.store.create none (some Store.rootName)).2.parent _ = .ok none
    rw [Store.parent_eq_ok_none_iff, Store.create_scope_new]

/-- A scope that was not there at the start of a run was created in a step of it. -/
theorem exists_creation {steps index : Nat}
    (old : (machine.course settings body 0).machine.store.scopes.size ≤ index)
    (new : index < (machine.course settings body steps).machine.store.scopes.size) :
    ∃ earlier < steps, (machine.course settings body earlier).machine.store.scopes.size ≤ index ∧
      index < (machine.course settings body (earlier + 1)).machine.store.scopes.size := by
  induction steps with
  | zero => omega
  | succ steps inductionHypothesis =>
    by_cases before : index < (machine.course settings body steps).machine.store.scopes.size
    · obtain ⟨earlier, ordered, creates⟩ := inductionHypothesis before
      exact ⟨earlier, by omega, creates⟩
    · exact ⟨steps, Nat.lt_succ_self steps, by omega, new⟩

/-- A live scope with a parent was created inside that parent, in a step of the run. -/
theorem course_createsInside (releases : settings.releases = true) (rest : machine.AtRest)
    {steps : Nat} {handle around : Handle}
    (live : (machine.course settings body steps).machine.store.IsLive handle)
    (inside : (machine.course settings body steps).machine.store.parent handle =
      .ok (some around)) :
    ∃ earlier < steps, (machine.course settings body earlier).CreatesInside
      (machine.course settings body (earlier + 1)) handle around := by
  have running := course_running_of_isLive releases rest live
  have tidy := (course_orderly releases rest body steps).sound.tidy
  by_cases old : handle.index < (machine.course settings body 0).machine.store.scopes.size
  · -- Only the outermost scope is live at the start, and it has no parent then or later.
    have persists := course_persists releases rest (Nat.zero_le steps) running
    have first := persists.isLive_before old live
    rw [persists.parent_eq first live] at inside
    rw [show machine.course settings body 0 = State.start body machine from rfl] at inside first
    rw [start_parent rest first] at inside
    cases inside
  · -- The parent in the step of the creation is still the parent now.
    obtain ⟨earlier, ordered, notYet, created⟩ :=
      exists_creation (Nat.le_of_not_lt old) (tidy.index_lt live)
    have before := course_running (Nat.succ_le_of_lt ordered) running
    have persists := course_persists releases rest (Nat.succ_le_of_lt ordered) running
    obtain ⟨new, outer, place, site⟩ :=
      (course_passage releases rest before).evolves.created notYet created
    rw [persists.parent_eq new live, place] at inside
    cases inside
    refine ⟨earlier, ordered, Nat.lt_succ_of_le notYet, created, site.imp id ?_⟩
    rintro ⟨rfl, next⟩
    exact ⟨rfl, congrArg (· + 1) next⟩

/-- At every moment of every run, all that refers to a scope finds that very scope in its slot. -/
theorem course_scopesInPlace (releases : settings.releases = true) (rest : machine.AtRest)
    (body : List Node) (now : Nat) : ScopesInPlace (machine.course settings body) now := by
  have orderly := course_orderly releases rest body now
  have sound := orderly.sound
  have finds : ∀ {handle : Handle}, (machine.course settings body now).machine.store.IsLive handle →
      (machine.course settings body now).machine.store.resolve
        ((machine.course settings body now).machine.store.scope handle).id = .ok handle :=
    fun live => live.resolve_eq
  refine ⟨?_, ?_, ?_, ?_⟩
  -- The parents of live scopes.
  · intro handle mem id parent
    have live := sound.tidy.mem_live_iff.mp mem
    obtain ⟨around, inside, held⟩ := sound.rooted.exists_parent live parent
    exact ⟨around, Store.resolve_natCast_eq_ok_iff.mpr held,
      Nat.succ_lt_succ (sound.rooted.parent_lt live inside),
      course_createsInside releases rest live inside⟩
  -- The functions that are bound, and those that are held.
  · intro handle mem name closure bound
    exact finds (sound.bound_isLive (sound.tidy.mem_live_iff.mp mem) bound rfl)
  · intro closure mem
    exact finds (orderly.isLive_of_keptBy (orderly.valid.keptBy_of_mem_values mem) rfl)
  -- The pins.
  · intro id pinned
    obtain ⟨handle, held⟩ := sound.pinned_held pinned
    have live := sound.tidy.isLive held
    rw [← sound.tidy.slot_eq held] at pinned
    refine ⟨handle, Store.resolve_natCast_eq_ok_iff.mpr held, ?_, ?_⟩
    · intro outer parent
      obtain ⟨around, inside, slot⟩ := sound.rooted.exists_parent live parent
      rw [← sound.tidy.slot_eq slot]
      exact sound.parent_isPinned live pinned inside
    · intro name closure bound
      exact sound.linked.bound_isPinned live pinned bound rfl

/-- While a function that has escaped is called, its scope and the root are pinned and live beside
the scope of the call. -/
theorem counterProgram_scopesInPlace :
    ScopesInPlace (Machine.initial.course .plain counterProgram) 25 ∧
      (Machine.initial.course .plain counterProgram 25).machine.store.live = [⟨0⟩, ⟨1⟩, ⟨2⟩] :=
  ⟨course_scopesInPlace rfl atRest_initial counterProgram 25, by decide +kernel⟩

end Machine

/-! ## No scope is kept without a reason -/

/-- An expression or a statement is about to begin; what is left to do after it is given. -/
inductive Control.Begins : Control → {awaited : Awaited} → Continuation awaited → Prop
  | evaluating (node : Node) (scope : Handle) (next : Continuation .value) :
      Begins (.evaluating node scope next) next
  | executing (node : Node) (scope : Handle) (next : Continuation .completion) :
      Begins (.executing node scope next) next

/-- An expression or a statement has ended: with a value, with a completion or with a failure. -/
inductive Control.Ends : Control → {awaited : Awaited} → Continuation awaited → Prop
  | delivering (value : Value) (next : Continuation .value) : Ends (.delivering value next) next
  | completing (completion : Completion) (next : Continuation .completion) :
      Ends (.completing completion next) next
  | unwinding (failure : Failure) {awaited : Awaited} (next : Continuation awaited) :
      Ends (.unwinding failure next) next

/-- At a moment of a run, every live scope is pinned for a reason or belongs to a construct that is
being executed, and what has ended has left nothing else. -/
structure ScopesAccounted (history : Nat → State) (now : Nat) : Prop where
  /-- A live scope is pinned or belongs to a construct that is being executed. -/
  pinned_or_owned : ∀ handle ∈ (history now).machine.store.live,
    (history now).machine.store.isPinned handle = true ∨
      handle ∈ Stake.owned (history now).control.stakes
  /-- The scopes of the constructs that are being executed are live. -/
  owned_live : ∀ handle ∈ Stake.owned (history now).control.stakes,
    handle ∈ (history now).machine.store.live
  /-- A construct that was entered later has a younger scope. -/
  owned_sorted : (Stake.owned (history now).control.stakes).Pairwise
    fun inner outer => outer.serial < inner.serial
  /-- What was live when an expression or a statement began is live in the same slots when it has
  ended, all else that is live was created since and is pinned, and the active calls are the same. -/
  restored : ∀ earlier ≤ now, ∀ (awaited : Awaited) (next : Continuation awaited),
    (history earlier).control.Begins next → (history now).control.Ends next →
    (∀ handle ∈ (history earlier).machine.store.live, handle ∈ (history now).machine.store.live ∧
      ((history now).machine.store.scope handle).id =
        ((history earlier).machine.store.scope handle).id) ∧
    (∀ handle ∈ (history now).machine.store.live, handle ∈ (history earlier).machine.store.live ∨
      (history now).machine.store.isPinned handle = true ∧
        (history earlier).machine.store.serial < handle.serial) ∧
    (history now).machine.callDepth = (history earlier).machine.callDepth ∧
    (history now).machine.frame = (history earlier).machine.frame
  /-- A pinned scope was reached, at an earlier moment, from the scope of a function that escaped
  then. -/
  pinned_reached : ∀ handle ∈ (history now).machine.store.live,
    (history now).machine.store.isPinned handle = true →
    ∃ earlier < now, ∃ closure, (history earlier).Escapes closure ∧
      (history earlier).machine.store.Reaches Value.scope? closure.scope handle

namespace Machine

variable {settings : Settings} {body : List Node} {machine : Machine}

/-- Two lists of stakes have the same owned scopes and the same calls. -/
def SameOwners (stakes others : List Stake) : Prop :=
  Stake.owned stakes = Stake.owned others ∧ Stake.frame? stakes = Stake.frame? others ∧
    Stake.depth stakes = Stake.depth others

/-- What begins owns no scope yet. -/
theorem sameOwners_of_begins {control : Control} {awaited : Awaited} {next : Continuation awaited}
    (begins : control.Begins next) : SameOwners control.stakes next.stakes := by
  cases begins <;> exact ⟨rfl, rfl, rfl⟩

/-- What has ended owns no scope any more. -/
theorem sameOwners_of_ends {control : Control} {awaited : Awaited} {next : Continuation awaited}
    (ends : control.Ends next) : SameOwners control.stakes next.stakes := by
  cases ends with
  | delivering | unwinding => exact ⟨rfl, rfl, rfl⟩
  | completing completion => cases completion <;> exact ⟨rfl, rfl, rfl⟩

/-- A run in which something has ended is not over. -/
theorem running_of_ends {state : State} {awaited : Awaited} {next : Continuation awaited}
    (ends : state.control.Ends next) : state.isHalted = false := by
  obtain ⟨machine, control⟩ := state
  cases ends <;> rfl

/-- What is live when an expression or a statement begins is live when it has ended. -/
theorem isLive_of_ends {state : State} (releases : settings.releases = true)
    (orderly : state.Orderly) {earlier later : Nat} (ordered : earlier ≤ later) {awaited : Awaited}
    {next : Continuation awaited} (begins : (state.advance settings earlier).control.Begins next)
    (ends : (state.advance settings later).control.Ends next) {handle : Handle}
    (live : (state.advance settings earlier).machine.store.IsLive handle) :
    (state.advance settings later).machine.store.IsLive handle := by
  obtain pinned | inside :=
    (State.advance_orderly releases orderly earlier).pinned_or_owned live
  · exact ((State.advance_persists releases orderly ordered (running_of_ends ends)).isPermanent
      ⟨live, pinned⟩).1
  · -- What goes on after the end owns the same scopes as before the beginning.
    rw [(sameOwners_of_begins begins).1, ← (sameOwners_of_ends ends).1] at inside
    exact (State.advance_orderly releases orderly later).owned_isLive inside

/-- Nothing is pinned when a run starts. -/
theorem start_isPinned (rest : machine.AtRest) (handle : Handle) :
    (State.start body machine).machine.store.isPinned handle = false := by
  show (machine.store.create none (some Store.rootName)).2.pinned.contains _ = false
  rw [Store.create_pinned, ← rest.store_eq]
  exact Std.TreeSet.contains_emptyc

/-- A pinned scope was reached from the scope of a function that escaped earlier in the run. -/
theorem course_pinned_reached (releases : settings.releases = true) (rest : machine.AtRest)
    {steps : Nat} {handle : Handle}
    (permanent : (machine.course settings body steps).machine.store.IsPermanent handle) :
    ∃ earlier < steps, ∃ closure, (machine.course settings body earlier).Escapes closure ∧
      (machine.course settings body earlier).machine.store.Reaches Value.scope? closure.scope
        handle := by
  induction steps with
  | zero =>
    have pinned : (State.start body machine).machine.store.isPinned handle = true := permanent.2
    rw [start_isPinned rest] at pinned
    cases pinned
  | succ steps inductionHypothesis =>
    have running := course_running_of_isLive releases rest permanent.1
    obtain before | ⟨origin, ⟨closure, escapes, rfl⟩, path⟩ :=
      (course_passage releases rest running).evolves.isPinned_cause permanent
    · obtain ⟨earlier, ordered, reason⟩ := inductionHypothesis before
      exact ⟨earlier, Nat.lt_succ_of_lt ordered, reason⟩
    · exact ⟨steps, Nat.lt_succ_self steps, closure, escapes, path⟩

/-- At every moment of every run, every live scope is pinned for a reason or belongs to a construct
that is being executed, and what has ended has left nothing else. -/
theorem course_scopesAccounted (releases : settings.releases = true) (rest : machine.AtRest)
    (body : List Node) (now : Nat) : ScopesAccounted (machine.course settings body) now := by
  have orderly := course_orderly releases rest body now
  have mem_live_iff : ∀ handle, handle ∈ (machine.course settings body now).machine.store.live ↔
      (machine.course settings body now).machine.store.IsLive handle :=
    fun _ => orderly.sound.tidy.mem_live_iff
  refine ⟨?_, ?_, ?_, ?_, ?_⟩
  · exact fun handle mem => orderly.pinned_or_owned ((mem_live_iff handle).mp mem)
  · exact fun handle mem => (mem_live_iff handle).mpr (orderly.owned_isLive mem)
  · exact orderly.sorted.imp Nat.succ_lt_succ
  -- What has ended: the stakes of both moments are those of `next`, so the owned scopes and the
  -- active calls are the same, and only pinned scopes can have been left.
  · intro earlier ordered awaited next begins ends
    have began := course_orderly releases rest body earlier
    obtain ⟨owned_eq, frame_eq, depth_eq⟩ := sameOwners_of_begins begins
    obtain ⟨owned_eq', frame_eq', depth_eq'⟩ := sameOwners_of_ends ends
    have persists := course_persists releases rest ordered (running_of_ends ends)
    refine ⟨?_, ?_, ?_, ?_⟩
    · intro handle mem
      have live := began.sound.tidy.mem_live_iff.mp mem
      refine ⟨(mem_live_iff handle).mpr ?_, persists.id_eq (began.sound.tidy.index_lt live)⟩
      exact isLive_of_ends releases (State.start_orderly rest body) ordered begins ends live
    · -- What is live now was live then if it is owned, or if it is pinned and old enough.
      intro handle mem
      have live := (mem_live_iff handle).mp mem
      rw [began.sound.tidy.mem_live_iff]
      obtain pinned | inside := orderly.pinned_or_owned live
      · by_cases old : handle.index <
            (machine.course settings body earlier).machine.store.scopes.size
        · exact Or.inl (persists.isLive_before old live)
        · exact Or.inr ⟨pinned, Nat.lt_succ_of_le (Nat.le_of_not_lt old)⟩
      · rw [owned_eq', ← owned_eq] at inside
        exact Or.inl (began.owned_isLive inside)
    · rw [orderly.depth_eq, began.depth_eq, depth_eq, depth_eq']
    · rw [orderly.frame_eq, began.frame_eq, frame_eq, frame_eq']
  · intro handle mem pinned
    exact course_pinned_reached releases rest ⟨(mem_live_iff handle).mp mem, pinned⟩

/-- After the call of a function that has escaped, its scope is pinned, and the scope of the call is
gone. -/
theorem counterProgram_scopesAccounted :
    ScopesAccounted (Machine.initial.course .plain counterProgram) 37 ∧
      (Machine.initial.course .plain counterProgram 37).machine.store.live = [⟨0⟩, ⟨1⟩] ∧
      (Machine.initial.course .plain counterProgram 37).machine.store.isPinned ⟨1⟩ = true :=
  ⟨course_scopesAccounted rfl atRest_initial counterProgram 37, by decide +kernel,
    by decide +kernel⟩

end Machine

end Scriptlet
