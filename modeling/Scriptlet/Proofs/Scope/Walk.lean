import Scriptlet.Proofs.Scope.Live

/-! # Walks outward

In a store in which every live scope is inside a live one that is older, or inside none, a walk
outward ends within the limit that it is given: each of its steps goes to an older scope, and there
are no more live scopes than slots.

Main definitions:

* `Store.Rooted`: every live scope has its parent in its place, and the parent is older.
* `Store.rank`: how many live scopes are not younger than a scope, which bounds walks from it.
* `Store.Finds`: where a name is found, seen from a scope.

Main statements:

* `Store.find?_eq_ok_iff`: the search for a name gives the nearest scope that binds it.
* `Store.exists_find?_eq_ok`: the search never fails. -/

namespace Scriptlet

/-- Fewer elements have a property than have a weaker one that one more element has. -/
theorem countP_lt_countP {β : Type} {list : List β} {strong weak : β → Bool} {element : β}
    (implies : ∀ other ∈ list, strong other = true → weak other = true) (mem : element ∈ list)
    (fails : strong element = false) (holds : weak element = true) :
    list.countP strong < list.countP weak := by
  induction list with
  | nil => cases mem
  | cons first rest inductionHypothesis =>
    have later : ∀ other ∈ rest, strong other = true → weak other = true :=
      fun other inside => implies other (List.mem_cons_of_mem _ inside)
    obtain rfl | inside := List.mem_cons.mp mem
    · have smaller : rest.countP strong ≤ rest.countP weak := List.countP_mono_left later
      rw [List.countP_cons_of_neg (by simp [fails]), List.countP_cons_of_pos holds]
      omega
    · have smaller := inductionHypothesis later inside
      have head := implies first (List.mem_cons_self ..)
      rw [List.countP_cons, List.countP_cons]
      cases strongHead : strong first with
      | false =>
        rw [if_neg (by simp)]
        omega
      | true =>
        rw [if_pos rfl, if_pos (head strongHead)]
        omega

namespace Store

variable {α : Type} {store : Store α} {handle around : Handle} {name : String}

/-! ## Parents -/

/-- The parent of a scope is what is in the slot that the scope names as its parent. -/
theorem parent_eq_ok_some_iff : store.parent handle = .ok (some around) ↔
    ∃ id, (store.scope handle).parent = some id ∧ store.slots[id]? = some (some around) := by
  rw [parent]
  cases named : (store.scope handle).parent with
  | none => simp
  | some id =>
    simp only [Option.some.injEq, exists_eq_left', ← resolve_natCast_eq_ok_iff]
    cases store.resolve id <;> simp

/-- A scope has no parent exactly if it names none. -/
theorem parent_eq_ok_none_iff :
    store.parent handle = .ok none ↔ (store.scope handle).parent = none := by
  rw [parent]
  cases (store.scope handle).parent with
  | none => simp
  | some id =>
    simp only [reduceCtorEq, iff_false]
    cases store.resolve id <;> simp

/-- A parent is live. -/
theorem Tidy.parent_isLive (tidy : store.Tidy)
    (inside : store.parent handle = .ok (some around)) : store.IsLive around := by
  obtain ⟨id, -, held⟩ := parent_eq_ok_some_iff.mp inside
  exact tidy.isLive held

/-- A scope names the slot of its parent. -/
theorem Tidy.parent_id (tidy : store.Tidy)
    (inside : store.parent handle = .ok (some around)) :
    (store.scope handle).parent = some (store.scope around).id := by
  obtain ⟨id, named, held⟩ := parent_eq_ok_some_iff.mp inside
  rw [named, tidy.slot_eq held]

/-- Every live scope has its parent in its place, and the parent is older. -/
structure Rooted (store : Store α) : Prop where
  /-- A live scope has its parent in its place, if it has one. -/
  parent_ok : ∀ {handle : Handle}, store.IsLive handle →
    ∃ around, store.parent handle = .ok around
  /-- The parent of a live scope is older. -/
  parent_lt : ∀ {handle around : Handle}, store.IsLive handle →
    store.parent handle = .ok (some around) → around.index < handle.index

/-- The slot of a parent holds the parent. -/
theorem Rooted.exists_parent (rooted : store.Rooted) (live : store.IsLive handle) {id : Nat}
    (named : (store.scope handle).parent = some id) :
    ∃ around, store.parent handle = .ok (some around) ∧ store.slots[id]? = some (some around) := by
  obtain ⟨outer, inside⟩ := rooted.parent_ok live
  cases outer with
  | none =>
    rw [parent_eq_ok_none_iff, named] at inside
    cases inside
  | some around =>
    obtain ⟨slot, same, held⟩ := parent_eq_ok_some_iff.mp inside
    rw [named] at same
    cases same
    exact ⟨around, inside, held⟩

/-! ## How long walks are -/

/-- How many live scopes are not younger than a scope. -/
def rank (store : Store α) (handle : Handle) : Nat :=
  store.live.countP (·.index ≤ handle.index)

/-- There are no more live scopes than slots. -/
theorem length_live_le (store : Store α) : store.live.length ≤ store.slots.size := by
  rw [live, ← Array.length_toList]
  exact List.length_filterMap_le _ _

/-- A rank is at most the number of slots. -/
theorem rank_le (store : Store α) (handle : Handle) : store.rank handle ≤ store.slots.size :=
  Nat.le_trans List.countP_le_length store.length_live_le

/-- An older scope has a smaller rank. -/
theorem Tidy.rank_lt (tidy : store.Tidy) (live : store.IsLive handle)
    (older : around.index < handle.index) : store.rank around < store.rank handle := by
  refine countP_lt_countP ?_ (tidy.mem_live_iff.mpr live) ?_ ?_
  · intro other _ below
    simp only [decide_eq_true_eq] at below ⊢
    omega
  · simpa using older
  · simp

/-! ## The search for a name -/

/-- Where a name is found, seen from a scope. -/
inductive Finds (store : Store α) (name : String) : Handle → Option Handle → Prop
  /-- The scope binds the name. -/
  | here {handle : Handle} (binds : store.binds handle name = true) :
      Finds store name handle (some handle)
  /-- The outermost scope does not bind the name. -/
  | nowhere {handle : Handle} (lacks : store.binds handle name = false)
      (outermost : store.parent handle = .ok none) : Finds store name handle none
  /-- The scope does not bind the name, and the search goes on outward. -/
  | outward {handle around : Handle} {found : Option Handle}
      (lacks : store.binds handle name = false)
      (inside : store.parent handle = .ok (some around)) (rest : Finds store name around found) :
      Finds store name handle found

/-- A name is found in one place only. -/
theorem Finds.unique {found other : Option Handle} (first : store.Finds name handle found)
    (second : store.Finds name handle other) : found = other := by
  induction first with
  | here binds =>
    cases second with
    | here => rfl
    | nowhere lacks | outward lacks => rw [binds] at lacks; cases lacks
  | nowhere lacks outermost =>
    cases second with
    | here binds => rw [binds] at lacks; cases lacks
    | nowhere => rfl
    | outward _ inside => rw [outermost] at inside; cases inside
  | outward lacks inside rest inductionHypothesis =>
    cases second with
    | here binds => rw [binds] at lacks; cases lacks
    | nowhere _ outermost => rw [outermost] at inside; cases inside
    | outward _ otherInside otherRest =>
      rw [inside] at otherInside
      cases otherInside
      exact inductionHypothesis otherRest

/-- What a search gives is what is found. -/
theorem finds_of_findWithin? {limit : Nat} {found : Option Handle}
    (search : store.findWithin? name limit handle = .ok found) :
    store.Finds name handle found := by
  induction limit generalizing handle with
  | zero => cases search
  | succ limit inductionHypothesis =>
    rw [findWithin?] at search
    cases binds : store.binds handle name with
    | true =>
      rw [binds, if_pos rfl] at search
      cases search
      exact .here binds
    | false =>
      rw [binds, if_neg (by simp)] at search
      -- A parent that is not in its place, no parent, and a parent.
      split at search
      · cases search
      · rename_i outermost
        cases search
        exact .nowhere binds outermost
      · rename_i inside
        exact .outward binds inside (inductionHypothesis search)

/-- A search with a limit above the rank of its start does not fail. -/
theorem exists_findWithin?_eq_ok (tidy : store.Tidy) (rooted : store.Rooted) {limit : Nat}
    (live : store.IsLive handle) (enough : store.rank handle < limit) :
    ∃ found, store.findWithin? name limit handle = .ok found := by
  induction limit generalizing handle with
  | zero => omega
  | succ limit inductionHypothesis =>
    rw [findWithin?]
    split
    · exact ⟨_, rfl⟩
    · -- The rank goes down with every step outward, so the rest of the limit is enough.
      obtain ⟨around, inside⟩ := rooted.parent_ok live
      rw [inside]
      cases around with
      | none => exact ⟨none, rfl⟩
      | some around =>
        have smaller := tidy.rank_lt live (rooted.parent_lt live inside)
        exact inductionHypothesis (tidy.parent_isLive inside) (by omega)

/-- The search for a name from a live scope does not fail. -/
theorem exists_find?_eq_ok (tidy : store.Tidy) (rooted : store.Rooted)
    (live : store.IsLive handle) (name : String) :
    ∃ found, store.find? name handle = .ok found ∧ store.Finds name handle found := by
  have enough : store.rank handle < store.walkLimit :=
    Nat.lt_succ_of_le (store.rank_le handle)
  obtain ⟨found, search⟩ : ∃ found, store.findWithin? name store.walkLimit handle = .ok found :=
    exists_findWithin?_eq_ok tidy rooted live enough
  exact ⟨found, search, finds_of_findWithin? search⟩

/-- The search for a name gives the nearest scope that binds it. -/
theorem find?_eq_ok_iff (tidy : store.Tidy) (rooted : store.Rooted)
    (live : store.IsLive handle) {found : Option Handle} :
    store.find? name handle = .ok found ↔ store.Finds name handle found := by
  constructor
  · exact finds_of_findWithin?
  · intro finds
    obtain ⟨other, search, otherFinds⟩ := exists_find?_eq_ok tidy rooted live name
    rw [search, finds.unique otherFinds]

/-- What is found is live, binds the name, and is not younger than the start. -/
theorem Finds.spec (tidy : store.Tidy) (rooted : store.Rooted) {found : Handle}
    (finds : store.Finds name handle (some found)) (live : store.IsLive handle) :
    store.IsLive found ∧ store.binds found name = true ∧ found.index ≤ handle.index := by
  generalize result : some found = place at finds
  induction finds with
  | here binds =>
    cases result
    exact ⟨live, binds, Nat.le_refl _⟩
  | nowhere => cases result
  | outward lacks inside rest inductionHypothesis =>
    have older := rooted.parent_lt live inside
    obtain ⟨foundLive, binds, notYounger⟩ :=
      inductionHypothesis (tidy.parent_isLive inside) result
    exact ⟨foundLive, binds, by omega⟩

end Store

end Scriptlet
