import Std.Data.TreeSet
import Scriptlet.Scope.Basic

/-! # The store of scopes

Scopes live in numbered slots.  A slot is free again once its scope has been released, and the slot
freed last is used first.  A pinned slot is never released.  Every scope ever created can still be read
through its handle, whether or not it is live.

Main definitions:

* `Store`: the scopes, the slots, the free slots and the pinned ones.
* `Store.create`, `Store.release`, `Store.clear`: the life of a scope.
* `Store.resolve`, `Store.parent`, `Store.depth`, `Store.find?`: walks outward from a scope.
* `Store.pin`, `Store.retain`: keep a scope, all around it, and all that it can reach. -/

namespace Scriptlet

/-- What goes wrong in a store that is used amiss. -/
inductive Store.Fault
  /-- A slot holds no scope. -/
  | released (id : Int)
  /-- There is no slot with the number of a scope. -/
  | outOfRange
  /-- A walk outward does not end. -/
  | endless
deriving Repr, DecidableEq, Inhabited

/-- The wording of a fault. -/
def Store.Fault.message : Store.Fault → String
  | released id => s!"environment #{id} has been released"
  | outOfRange => "list index out of range"
  | endless => "scopes enclose each other"

/-- The scopes of a run. -/
structure Store (α : Type) where
  /-- Every scope ever created, by handle. -/
  scopes : Array (Scope α)
  /-- The scope in each slot. -/
  slots : Array (Option Handle)
  /-- The free slots; the first is used next. -/
  free : List Nat
  /-- The pinned slots. -/
  pinned : Std.TreeSet Nat

namespace Store

variable {α : Type}

/-- No scope has been created. -/
def empty : Store α :=
  { scopes := #[], slots := #[], free := [], pinned := ∅ }

instance : Inhabited (Store α) := ⟨empty⟩

/-- The number of the scope created last. -/
def serial (store : Store α) : Nat :=
  store.scopes.size

/-- The number of live scopes. -/
def size (store : Store α) : Nat :=
  store.slots.size - store.free.length

/-- The live scopes, by slot. -/
def live (store : Store α) : List Handle :=
  store.slots.toList.filterMap id

/-- The scope of a handle. -/
def scope (store : Store α) (handle : Handle) : Scope α :=
  store.scopes.getD handle.index default

/-- Whether the slot of a scope is pinned. -/
def isPinned (store : Store α) (handle : Handle) : Bool :=
  store.pinned.contains (store.scope handle).id

/-- The scope in a slot. -/
def resolve (store : Store α) (id : Int) : Except Fault Handle :=
  match id with
  | .ofNat index =>
    match store.slots[index]? with
    | some (some handle) => .ok handle
    | _ => .error (.released id)
  | .negSucc _ => .error (.released id)

/-! ## The life of a scope -/

/-- Creates a scope in the slot freed last, or in a new slot if none is free. -/
def create (store : Store α) (parent : Option Nat) (name : Option String) : Handle × Store α :=
  let handle : Handle := ⟨store.scopes.size⟩
  match store with
  | { scopes, slots, free := id :: free, pinned } =>
    (handle,
      { scopes := scopes.push { id, parent, name, bindings := [] }
        slots := slots.setIfInBounds id (some handle), free, pinned })
  | { scopes, slots, free := [], pinned } =>
    (handle,
      { scopes := scopes.push { id := slots.size, parent, name, bindings := [] }
        slots := slots.push (some handle), free := [], pinned })

/-- What the outermost scope of a run is created for. -/
def rootName : String := "__top_expression"

/-- Creates a scope with none around it. -/
def createRoot (store : Store α) (name : String) : Handle × Store α :=
  store.create none (some name)

/-- Creates a scope inside another one. -/
def createChild (store : Store α) (handle : Handle) (name : Option String) : Handle × Store α :=
  store.create (some (store.scope handle).id) name

/-- Frees the slot of a scope, unless the slot is pinned or another scope is in it by now. -/
def release (store : Store α) (handle : Handle) : Except Fault Unit × Store α :=
  let id := (store.scope handle).id
  if store.pinned.contains id then (.ok (), store)
  else match store.slots[id]? with
    | none => (.error .outOfRange, store)
    | some occupant =>
      if occupant = some handle then
        (.ok (), { store with slots := store.slots.setIfInBounds id none, free := id :: store.free })
      else (.ok (), store)

/-- Drops all slots and pins; the order of creation goes on. -/
def clear (store : Store α) : Store α :=
  { scopes := store.scopes, slots := #[], free := [], pinned := ∅ }

/-! ## Bindings -/

/-- The value of a name in a scope. -/
def get? (store : Store α) (handle : Handle) (name : String) : Option α :=
  (store.scope handle).get? name

/-- Whether a scope binds a name. -/
def binds (store : Store α) (handle : Handle) (name : String) : Bool :=
  (store.scope handle).binds name

/-- Binds a name in a scope. -/
def bind (store : Store α) (handle : Handle) (name : String) (value : α) : Store α :=
  { store with scopes := store.scopes.modify handle.index (·.bind name value) }

/-! ## Walks outward -/

/-- The scope around a scope. -/
def parent (store : Store α) (handle : Handle) : Except Fault (Option Handle) :=
  match (store.scope handle).parent with
  | none => .ok none
  | some id =>
    match store.resolve id with
    | .ok parent => .ok (some parent)
    | .error fault => .error fault

/-- How many steps a walk outward can take without coming back to a slot. -/
def walkLimit (store : Store α) : Nat :=
  store.slots.size + 1

/-- The number of scopes around a scope, if it is at most a limit. -/
def depthWithin (store : Store α) : Nat → Handle → Except Fault Nat
  | 0, _ => .error .endless
  | limit + 1, handle =>
    match store.parent handle with
    | .error fault => .error fault
    | .ok none => .ok 0
    | .ok (some parent) =>
      match store.depthWithin limit parent with
      | .ok depth => .ok (depth + 1)
      | .error fault => .error fault

/-- The number of scopes around a scope. -/
def depth (store : Store α) (handle : Handle) : Except Fault Nat :=
  store.depthWithin store.walkLimit handle

/-- The nearest scope outward that binds a name, within a limit of steps. -/
def findWithin? (store : Store α) (name : String) : Nat → Handle → Except Fault (Option Handle)
  | 0, _ => .error .endless
  | limit + 1, handle =>
    if store.binds handle name then .ok (some handle)
    else match store.parent handle with
      | .error fault => .error fault
      | .ok none => .ok none
      | .ok (some parent) => store.findWithin? name limit parent

/-- The nearest scope outward that binds a name. -/
def find? (store : Store α) (name : String) (handle : Handle) : Except Fault (Option Handle) :=
  store.findWithin? name store.walkLimit handle

/-! ## Keeping scopes -/

/-- Pins a slot and those around it, up to the first that is pinned, within a limit of steps.  Gives
the scopes that were not pinned before, innermost first; a slot stays pinned if the walk fails. -/
def pinWithin (store : Store α) : Nat → Option Nat → Except Fault (List Handle) × Store α
  | 0, _ => (.error .endless, store)
  | _ + 1, none => (.ok [], store)
  | limit + 1, some id =>
    if store.pinned.contains id then (.ok [], store)
    else
      let store := { store with pinned := store.pinned.insert id }
      match store.resolve id with
      | .error fault => (.error fault, store)
      | .ok handle =>
        match store.pinWithin limit (store.scope handle).parent with
        | (.ok handles, store) => (.ok (handle :: handles), store)
        | (.error fault, store) => (.error fault, store)

/-- Pins a scope and all around it; gives those that were not pinned before, innermost first. -/
def pin (store : Store α) (handle : Handle) : Except Fault (List Handle) × Store α :=
  store.pinWithin (store.walkLimit + 1) (some (store.scope handle).id)

/-- The scopes that values bound in given scopes link to and that are not pinned, last first. -/
def links (store : Store α) (link? : α → Option Handle) (handles : List Handle) : List Handle :=
  ((handles.flatMap fun handle =>
    (store.scope handle).bindings.filterMap fun (_, value) => link? value).filter
      fun handle => !store.isPinned handle).reverse

/-- Pins scopes and all that they reach outward and through links, within a limit of rounds. -/
def retainWithin (store : Store α) (link? : α → Option Handle) :
    Nat → List Handle → Except Fault Unit × Store α
  | 0, _ => (.ok (), store)
  | limit + 1, pending =>
    match pending.dropWhile store.isPinned with
    | [] => (.ok (), store)
    | handle :: pending =>
      match store.pin handle with
      | (.error fault, store) => (.error fault, store)
      | (.ok handles, store) =>
        store.retainWithin link? limit (store.links link? handles ++ pending)

/-- Pins a scope and all that it reaches outward and through the links of values bound on the way.
Each round pins a slot, so there are no more rounds than slots. -/
def retain (store : Store α) (link? : α → Option Handle) (handle : Handle) :
    Except Fault Unit × Store α :=
  store.retainWithin link? (store.slots.size + 1) [handle]

end Store

end Scriptlet
