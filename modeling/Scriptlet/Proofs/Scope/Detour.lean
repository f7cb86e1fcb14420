import Scriptlet.Proofs.Scope.Mirror

/-! # An extra scope on the way outward

Two stores differ by one scope, which is empty and stays so: in the second store, some ways outward
pass through it before they come to the scope around it.  All scopes created later have moved up by
one in the order of creation.  What can be seen from a live scope of the first store can be seen from
the same scope of the second, and from the extra scope whatever can be seen from the one around it.

Main definitions:

* `Detour`: an extra scope, and the scope around it.
* `Detour.Views`: two scopes from which the same things are seen.
* `Store.Detours`: two stores are the same but for an extra scope.
* `Store.Shares`: so are two stores as far as scopes are live in both.

Main statements: each change of a store can be made in both, and a release in the first one alone;
`Store.Detours.find?_eq`: names are found in the same places. -/

namespace Scriptlet

/-- An extra scope inside another one. -/
structure Detour where
  /-- The scope around the extra one. -/
  around : Handle
  /-- The extra scope. -/
  extra : Handle
  /-- The scope around the extra one is older. -/
  older : around.index < extra.index

namespace Detour

variable (detour : Detour)

/-- A scope, named by how many scopes were created before it, the extra one included. -/
def handle (handle : Handle) : Handle :=
  if handle.index < detour.extra.index then handle else ⟨handle.index + 1⟩

/-- The same is seen from two scopes: from one scope in both stores, and from the extra one in the
place of the scope around it, as long as no name is assigned from there. -/
inductive Views (assigns : Bool) : Handle → Handle → Prop
  | same (scope : Handle) : Views assigns scope (detour.handle scope)
  | inside (absent : assigns = false) : Views assigns detour.around detour.extra

variable {detour}

/-- A scope from before the extra one is where it was. -/
theorem handle_of_lt {scope : Handle} (before : scope.index < detour.extra.index) :
    detour.handle scope = scope :=
  if_pos before

/-- A scope from after it is one place later. -/
theorem handle_of_le {scope : Handle} (after : detour.extra.index ≤ scope.index) :
    detour.handle scope = ⟨scope.index + 1⟩ :=
  if_neg (Nat.not_lt.mpr after)

/-- The scope around the extra one is where it was. -/
@[simp] theorem handle_around : detour.handle detour.around = detour.around :=
  handle_of_lt detour.older

/-- No scope becomes the extra one. -/
theorem handle_ne_extra (scope : Handle) : detour.handle scope ≠ detour.extra := by
  rw [handle]
  split
  · rename_i before
    rintro rfl
    exact absurd before (Nat.lt_irrefl _)
  · rename_i after
    intro same
    rw [← same] at after
    exact after (Nat.lt_succ_self _)

/-- No two scopes are moved to one place. -/
@[simp] theorem handle_inj {scope other : Handle} :
    detour.handle scope = detour.handle other ↔ scope = other := by
  obtain ⟨index⟩ := scope
  obtain ⟨otherIndex⟩ := other
  constructor
  · intro same
    rw [handle, handle] at same
    split at same <;> split at same <;> simp_all only [Handle.mk.injEq] <;> omega
  · exact congrArg detour.handle

/-- Less is asked of a view from which fewer names are assigned. -/
theorem Views.mono {assigns fewer : Bool} {scope other : Handle}
    (views : detour.Views assigns scope other) (implies : assigns = false → fewer = false) :
    detour.Views fewer scope other := by
  cases views with
  | same => exact .same scope
  | inside absent => exact .inside (implies absent)

/-- Names are assigned from the same scope only. -/
theorem Views.eq {scope other : Handle} (views : detour.Views true scope other) :
    other = detour.handle scope := by
  cases views with
  | same => rfl
  | inside absent => cases absent

end Detour

namespace Store

variable {α : Type} {store first second : Store α} {link? : α → Option Handle} {detour : Detour}
  {move : α → α}

/-- Two stores are the same but for an extra scope of the second one; what links to scopes is moved
with them. -/
structure Detours (detour : Detour) (move : α → α) (first second : Store α) : Prop where
  created : detour.extra.index ≤ first.scopes.size
  size_eq : second.scopes.size = first.scopes.size + 1
  extra_isLive : second.IsLive detour.extra
  extra_parent : second.parent detour.extra = .ok (some detour.around)
  extra_bindings : (second.scope detour.extra).bindings = []
  isLive : ∀ {handle : Handle}, first.IsLive handle → second.IsLive (detour.handle handle)
  bindings_eq : ∀ {handle : Handle}, first.IsLive handle →
    (second.scope (detour.handle handle)).bindings =
      (first.scope handle).bindings.map fun binding => (binding.1, move binding.2)
  exists_parent : ∀ {handle : Handle} {outer : Option Handle}, first.IsLive handle →
    first.parent handle = .ok outer → ∃ otherOuter,
      second.parent (detour.handle handle) = .ok otherOuter ∧
        Option.Rel (detour.Views false) outer otherOuter

/-- The stores before and after the creation of a scope are the same but for that scope. -/
theorem detours_createChild {name : Option String} (sound : store.Sound link?)
    (live : store.IsLive detour.around) (extra : detour.extra = ⟨store.scopes.size⟩)
    (stays : ∀ handle binding, store.IsLive handle → binding ∈ (store.scope handle).bindings →
      move binding.2 = binding.2) :
    Detours detour move store (store.createChild detour.around name).2 := by
  have tidy := sound.tidy
  have same : ∀ {handle : Handle}, store.IsLive handle → detour.handle handle = handle := by
    intro handle live
    refine Detour.handle_of_lt ?_
    rw [extra]
    exact tidy.index_lt live
  -- All live scopes are from before the extra one, so none of them is moved.
  refine ⟨Nat.le_of_eq (by rw [extra]), create_size, ?_, ?_, ?_, ?_, ?_, ?_⟩
  · exact tidy.create_isLive_iff.mpr (Or.inr extra)
  · rw [extra]
    exact createChild_parent_new tidy live
  · rw [extra, createChild, create_scope_new]
  · intro handle live
    rw [same live]
    exact tidy.create_isLive_iff.mpr (Or.inl live)
  · intro handle live
    rw [same live, createChild, create_scope_of_lt (tidy.index_lt live)]
    have same : (store.scope handle).bindings.map (fun binding => (binding.1, move binding.2)) =
        (store.scope handle).bindings.map id :=
      List.map_congr_left fun binding mem => Prod.ext rfl (stays handle binding live mem)
    rw [same, List.map_id]
  · intro handle outer live inside
    refine ⟨outer, ?_, ?_⟩
    · rw [same live, createChild, create_parent_of_isLive tidy sound.rooted live, inside]
    · cases outer with
      | none => exact .none
      | some outer =>
        have views : detour.Views false outer (detour.handle outer) := .same outer
        rw [same (tidy.parent_isLive inside)] at views
        exact .some views

namespace Detours

/-! ## Reading -/

section

variable (detours : Detours detour move first second)
include detours

/-- A live scope binds its names to the moved values. -/
theorem get?_eq {handle : Handle} (live : first.IsLive handle) (name : String) :
    second.get? (detour.handle handle) name = (first.get? handle name).map move := by
  rw [get?, Scope.get?, detours.bindings_eq live, lookup_map, get?, Scope.get?]

/-- It binds the same names. -/
theorem binds_eq {handle : Handle} (live : first.IsLive handle) (name : String) :
    second.binds (detour.handle handle) name = first.binds handle name := by
  show (second.get? _ name).isSome = (first.get? handle name).isSome
  rw [detours.get?_eq live, Option.isSome_map]

/-- The extra scope binds no name. -/
theorem extra_binds (name : String) : second.binds detour.extra name = false := by
  rw [binds, Scope.binds, Scope.get?, detours.extra_bindings]
  rfl

/-- What is seen from a live scope is seen from a live scope. -/
theorem isLive_of_views {assigns : Bool} {scope other : Handle}
    (views : detour.Views assigns scope other) (live : first.IsLive scope) :
    second.IsLive other := by
  cases views with
  | same => exact detours.isLive live
  | inside => exact detours.extra_isLive

/-- A walk outward that starts in the extra scope goes on in the one around it. -/
theorem finds_of_views {assigns : Bool} {name : String} {scope other : Handle}
    {found : Option Handle} (views : detour.Views assigns scope other)
    (finds : second.Finds name (detour.handle scope) found) : second.Finds name other found := by
  cases views with
  | same => exact finds
  | inside =>
    rw [Detour.handle_around] at finds
    exact .outward (detours.extra_binds name) detours.extra_parent finds

/-- A walk outward meets the same scopes in both stores, and the extra one on the way. -/
theorem finds (tidy : first.Tidy) {name : String} {handle : Handle} {found : Option Handle}
    (live : first.IsLive handle) (finds : first.Finds name handle found) :
    second.Finds name (detour.handle handle) (found.map detour.handle) := by
  induction finds with
  | here binds => exact .here (by rw [detours.binds_eq live, binds])
  | nowhere lacks outermost =>
    obtain ⟨outer, inside, related⟩ := detours.exists_parent live outermost
    cases related
    exact .nowhere (by rw [detours.binds_eq live, lacks]) inside
  | outward lacks inside rest inductionHypothesis =>
    obtain ⟨outer, otherInside, related⟩ := detours.exists_parent live inside
    cases related with
    | some views =>
      exact .outward (by rw [detours.binds_eq live, lacks]) otherInside
        (detours.finds_of_views views (inductionHypothesis (tidy.parent_isLive inside)))

/-- Names are found in the same places. -/
theorem find?_eq (sound : first.Sound link?) (otherSound : second.Sound link?) {assigns : Bool}
    {name : String} {scope other : Handle} {found : Option Handle}
    (views : detour.Views assigns scope other) (live : first.IsLive scope)
    (search : first.find? name scope = .ok found) :
    second.find? name other = .ok (found.map detour.handle) := by
  have finds := (find?_eq_ok_iff sound.tidy sound.rooted live).mp search
  exact (find?_eq_ok_iff otherSound.tidy otherSound.rooted (detours.isLive_of_views views live)).mpr
    (detours.finds_of_views views (detours.finds sound.tidy live finds))

/-- The next scope gets the same place in the order of creation, the extra scope included. -/
theorem handle_next : detour.handle ⟨first.scopes.size⟩ = ⟨second.scopes.size⟩ := by
  rw [detours.size_eq]
  exact Detour.handle_of_le detours.created

end

/-! ## Changes -/

/-- A scope is created in both stores, inside scopes from which the same is seen. -/
theorem createChild (detours : Detours detour move first second) (sound : first.Sound link?)
    (otherSound : second.Sound link?) {around other : Handle} {name otherName : Option String}
    (views : detour.Views false around other) (live : first.IsLive around) :
    Detours detour move (first.createChild around name).2
      (second.createChild other otherName).2 := by
  have tidy := sound.tidy
  have otherTidy := otherSound.tidy
  have extra_lt := otherTidy.index_lt detours.extra_isLive
  -- What is live was live before, or it is the new scope, which is moved to the other new one.
  refine ⟨?_, ?_, ?_, ?_, ?_, ?_, ?_, ?_⟩
  · exact Nat.le_trans detours.created (create_size ▸ Nat.le_succ _)
  · exact create_size.trans (by rw [detours.size_eq, Store.createChild, create_size])
  · exact otherTidy.create_isLive_iff.mpr (Or.inl detours.extra_isLive)
  · exact (create_parent_of_isLive otherTidy otherSound.rooted detours.extra_isLive).trans
      detours.extra_parent
  · rw [Store.createChild, create_bindings, detours.extra_bindings]
  · intro handle still
    refine otherTidy.create_isLive_iff.mpr ?_
    obtain before | rfl := tidy.create_isLive_iff.mp still
    · exact Or.inl (detours.isLive before)
    · exact Or.inr detours.handle_next
  · intro handle still
    obtain before | rfl := tidy.create_isLive_iff.mp still
    · rw [Store.createChild, Store.createChild, create_bindings, create_bindings,
        detours.bindings_eq before]
    · rw [detours.handle_next, Store.createChild, Store.createChild, create_scope_new,
        create_scope_new]
      rfl
  · intro handle outer still inside
    obtain before | rfl := tidy.create_isLive_iff.mp still
    · rw [Store.createChild, create_parent_of_isLive tidy sound.rooted before] at inside
      rw [Store.createChild,
        create_parent_of_isLive otherTidy otherSound.rooted (detours.isLive before)]
      exact detours.exists_parent before inside
    · rw [createChild_parent_new tidy live] at inside
      cases inside
      rw [detours.handle_next,
        createChild_parent_new otherTidy (detours.isLive_of_views views live)]
      exact ⟨some other, rfl, .some views⟩

/-- A name is bound in both stores. -/
theorem bind (detours : Detours detour move first second) (tidy : first.Tidy)
    (otherTidy : second.Tidy) (holder : Handle) (name : String) (value : α) :
    Detours detour move (first.bind holder name value)
      (second.bind (detour.handle holder) name (move value)) where
  created := by
    rw [bind_size]
    exact detours.created
  size_eq := by rw [bind_size, bind_size, detours.size_eq]
  extra_isLive := bind_isLive_iff.mpr detours.extra_isLive
  extra_parent := by rw [bind_parent, detours.extra_parent]
  extra_bindings := by
    rw [bind_scope_of_ne (Ne.symm (Detour.handle_ne_extra holder)), detours.extra_bindings]
  isLive := fun live => bind_isLive_iff.mpr (detours.isLive (bind_isLive_iff.mp live))
  bindings_eq := by
    intro handle live
    have before := bind_isLive_iff.mp live
    -- Only the scope that holds the name has other bindings, and the detour keeps scopes apart.
    by_cases same : handle = holder
    · subst same
      rw [bind_scope_self (tidy.index_lt before),
        bind_scope_self (otherTidy.index_lt (detours.isLive before)), Scope.bind, Scope.bind,
        map_bindName, detours.bindings_eq before]
    · rw [bind_scope_of_ne same, bind_scope_of_ne (fun moved => same (Detour.handle_inj.mp moved)),
        detours.bindings_eq before]
  exists_parent := by
    intro handle outer live inside
    rw [bind_parent] at inside ⊢
    exact detours.exists_parent (bind_isLive_iff.mp live) inside

/-- Slots are pinned in both stores, not necessarily the same ones. -/
theorem withPins (detours : Detours detour move first second) (pins otherPins : Std.TreeSet Nat) :
    Detours detour move (first.withPins pins) (second.withPins otherPins) :=
  ⟨detours.created, detours.size_eq, detours.extra_isLive, detours.extra_parent,
    detours.extra_bindings, detours.isLive, detours.bindings_eq, detours.exists_parent⟩

/-- A scope is released in the first store only, if no live scope is inside it. -/
theorem release (detours : Detours detour move first second) (sound : first.Sound link?)
    {handle : Handle} (childless : first.isPinned handle = false → ∀ inner, first.IsLive inner →
      first.parent inner ≠ .ok (some handle)) :
    Detours detour move (first.release handle).2 second where
  created := by
    rw [release_scopes]
    exact detours.created
  size_eq := by rw [release_scopes, detours.size_eq]
  extra_isLive := detours.extra_isLive
  extra_parent := detours.extra_parent
  extra_bindings := detours.extra_bindings
  isLive := fun live => detours.isLive (release_isLive_iff.mp live).1
  bindings_eq := by
    intro other live
    rw [release_scope, detours.bindings_eq (release_isLive_iff.mp live).1]
  exists_parent := by
    intro other outer live inside
    have before := (release_isLive_iff.mp live).1
    -- A live scope keeps its parent, which is not the released one.
    have evolves : first.Evolves link? none (fun _ => False) (first.release handle).2 :=
      .release sound childless
    rw [evolves.parent_eq before live] at inside
    exact detours.exists_parent before inside

end Detours

/-! ## What two stores share -/

/-- Two stores are the same but for an extra scope of the second one, as far as their scopes are live
in both. -/
structure Shares (detour : Detour) (move : α → α) (first second : Store α) : Prop where
  bindings_eq : ∀ {handle : Handle}, first.IsLive handle →
    second.IsLive (detour.handle handle) →
    (second.scope (detour.handle handle)).bindings =
      (first.scope handle).bindings.map fun binding => (binding.1, move binding.2)
  /-- The parents are the same, or the extra scope is in between. -/
  exists_parent : ∀ {handle : Handle}, first.IsLive handle →
    second.IsLive (detour.handle handle) → ∃ outer otherOuter,
      first.parent handle = .ok outer ∧ second.parent (detour.handle handle) = .ok otherOuter ∧
        Option.Rel (detour.Views false) outer otherOuter
  extra_bindings : (second.scope detour.extra).bindings = []
  extra_parent : second.IsLive detour.extra →
    second.parent detour.extra = .ok (some detour.around)

/-- Two stores share what is the same but for an extra scope in the first one and in a store that
mirrors the second one. -/
theorem Detours.shares {kept : Store α} (detours : Detours detour move first kept)
    (rooted : first.Rooted) (mirrors : second.Mirrors kept) : Shares detour move first second where
  bindings_eq := by
    intro handle live _
    rw [← mirrors.bindings_eq, detours.bindings_eq live]
  exists_parent := by
    intro handle live otherLive
    obtain ⟨outer, inside⟩ := rooted.parent_ok live
    obtain ⟨otherOuter, otherInside, views⟩ := detours.exists_parent live inside
    rw [mirrors.parent_eq otherLive] at otherInside
    exact ⟨outer, otherOuter, inside, otherInside, views⟩
  extra_bindings := by rw [← mirrors.bindings_eq, detours.extra_bindings]
  extra_parent := by
    intro live
    rw [← mirrors.parent_eq live, detours.extra_parent]

/-- What is reached from a scope that is live in both stores is live in both. -/
theorem Shares.isLive_of_reaches (shares : Shares detour move first second)
    (sound : first.Sound link?) (otherSound : second.Sound link?)
    (moves : ∀ value, link? (move value) = (link? value).map detour.handle)
    {origin handle : Handle} (live : first.IsLive origin)
    (otherLive : second.IsLive (detour.handle origin)) (path : first.Reaches link? origin handle) :
    first.IsLive handle ∧ second.IsLive (detour.handle handle) := by
  induction path with
  | refl => exact ⟨live, otherLive⟩
  | outward path inside inductionHypothesis =>
    obtain ⟨innerLive, otherInnerLive⟩ := inductionHypothesis
    refine ⟨sound.tidy.parent_isLive inside, ?_⟩
    obtain ⟨_, otherOuter, place, otherPlace, related⟩ :=
      shares.exists_parent innerLive otherInnerLive
    rw [inside] at place
    cases place
    cases related with
    | some views =>
      have outerLive := otherSound.tidy.parent_isLive otherPlace
      cases views with
      | same => exact outerLive
      | inside =>
        -- The extra scope is in between, and so its parent is live as well.
        rw [Detour.handle_around]
        exact otherSound.tidy.parent_isLive (shares.extra_parent outerLive)
  | @through holder target name value path bound link inductionHypothesis =>
    obtain ⟨holderLive, otherHolderLive⟩ := inductionHypothesis
    refine ⟨sound.bound_isLive holderLive bound link, ?_⟩
    have moved : (name, move value) ∈ (second.scope (detour.handle holder)).bindings := by
      rw [shares.bindings_eq holderLive otherHolderLive]
      exact List.mem_map.mpr ⟨(name, value), bound, rfl⟩
    refine otherSound.bound_isLive otherHolderLive moved ?_
    rw [moves, link, Option.map_some]

end Store

end Scriptlet
