import Scriptlet.Machine.Continuation

/-! # What is at stake in the scopes

What is left to do refers to scopes in few ways: it goes on in a scope, holds values, owns a scope
that is released in the end, or ends a call.  Listed from the innermost to the outermost, these
stakes decide what may happen to scopes in a run; all else that a continuation holds does not matter
for that.

Main definitions:

* `Stake`, `Continuation.stakes`, `Control.stakes`: the ways in which what is left to do refers to
  scopes.
* `Stake.owned`, `Stake.frame?`, `Stake.depth`: the scopes owned, and the active calls.
* `Value.KeptBy`: the scope that a value links to is pinned or owned.
* `Stake.Valid`: work goes on in the innermost scope only, and held values link to scopes that are
  pinned or stay owned for as long as the values are held. -/

namespace Scriptlet

/-- A way in which what is left to do refers to scopes. -/
inductive Stake
  /-- Work goes on in a scope. -/
  | resumes (scope : Handle)
  /-- Values are held. -/
  | holds (values : List Value)
  /-- A value is the result of the innermost call. -/
  | returns (value : Value)
  /-- A scope is released. -/
  | owns (scope : Handle)
  /-- A call ends: its scope is released, and the frame of the caller is the current one again. -/
  | calls (scope : Handle) (callerFrame : Option Handle)

/-- The function that a callee is, if it is declared. -/
def Callee.values : Callee → List Value
  | .builtin _ => []
  | .declared closure => [.function closure]

/-- Arguments are held in reverse until they are passed, which changes nothing about which they are. -/
theorem Callee.mem_passed_iff {callee : Callee} {finished : List Value} {value : Value} :
    value ∈ callee.values ++ finished.reverse ↔ value ∈ callee.values ++ finished := by
  rw [List.mem_append, List.mem_reverse, ← List.mem_append]

/-- The stakes of a completion. -/
def Completion.stakes : Completion → List Stake
  | .returned value => [.returns value]
  | .normal | .broken | .continued => []

/-- The stakes of what is left to do, innermost first. -/
def Continuation.stakes {awaited : Awaited} : Continuation awaited → List Stake
  | .assigning _ scope next | .conjunction _ scope next | .disjunction _ scope next
  | .leftOperand _ _ _ scope next => .resumes scope :: next.stakes
  | .truth next | .operand _ _ next => next.stakes
  | .rightOperand _ _ left next => .holds [left] :: next.stakes
  | .argument _ callee finished _ scope next =>
    .resumes scope :: .holds (callee.values ++ finished) :: next.stakes
  | .declaring _ scope next | .branching _ _ _ scope next => .resumes scope :: next.stakes
  | .testing _ loop next | .stepping loop next => .resumes loop.scope :: next.stakes
  | .returning next | .discarding next => next.stakes
  | .sequence _ scope next => .resumes scope :: next.stakes
  | .starting loop next | .looping loop next => .resumes loop.scope :: next.stakes
  | .leaving scope next => .owns scope :: next.stakes
  | .calling _ scope callerFrame _ next => .calls scope callerFrame :: next.stakes
  | .program _ root => [.resumes root, .owns root]

/-- The stakes of what is being done now and of what is left to do after it, innermost first. -/
def Control.stakes : Control → List Stake
  | .evaluating _ scope next => .resumes scope :: next.stakes
  | .executing _ scope next => .resumes scope :: next.stakes
  | .delivering value next => .holds [value] :: next.stakes
  | .completing completion next => completion.stakes ++ next.stakes
  | .unwinding _ next => next.stakes
  | .halted _ => []

namespace Stake

/-- The scope that is released in the end. -/
def owned? : Stake → Option Handle
  | owns scope | calls scope _ => some scope
  | resumes _ | holds _ | returns _ => none

/-- The scopes of the constructs that are being executed, innermost first. -/
def owned (stakes : List Stake) : List Handle :=
  stakes.filterMap owned?

/-- The scope of the innermost call. -/
def frame? : List Stake → Option Handle
  | [] => none
  | calls scope _ :: _ => some scope
  | resumes _ :: rest | holds _ :: rest | returns _ :: rest | owns _ :: rest => frame? rest

/-- The number of calls. -/
def depth : List Stake → Nat
  | [] => 0
  | calls _ _ :: rest => depth rest + 1
  | resumes _ :: rest | holds _ :: rest | returns _ :: rest | owns _ :: rest => depth rest

/-- The stakes outside the innermost call, if there is a call. -/
def beneathCall? : List Stake → Option (List Stake)
  | [] => none
  | calls _ _ :: rest => some rest
  | resumes _ :: rest | holds _ :: rest | returns _ :: rest | owns _ :: rest => beneathCall? rest

/-- The values that are held: operands, arguments, functions about to be called, and the result of a
call that is being left. -/
def values : List Stake → List Value
  | [] => []
  | holds held :: rest => held ++ values rest
  | returns value :: rest => if depth rest = 0 then values rest else value :: values rest
  | resumes _ :: rest | owns _ :: rest | calls _ _ :: rest => values rest

end Stake

/-- The scope that a value links to is pinned or among given scopes. -/
def Value.KeptBy (pinned : Handle → Prop) (scopes : List Handle) (value : Value) : Prop :=
  ∀ target, value.scope? = some target → pinned target ∨ target ∈ scopes

namespace Stake

/-- Work goes on in the innermost scope only; held values link to scopes that are pinned or stay
owned for as long as the values are held; a call restores the frame of its caller. -/
def Valid (pinned : Handle → Prop) : List Stake → Prop
  | [] => True
  | resumes scope :: rest => (owned rest).head? = some scope ∧ Valid pinned rest
  | holds held :: rest => (∀ value ∈ held, value.KeptBy pinned (owned rest)) ∧ Valid pinned rest
  -- The scopes inside the call are released before its result is used.
  | returns value :: rest =>
    (∀ beneath, beneathCall? rest = some beneath → value.KeptBy pinned (owned beneath)) ∧
      Valid pinned rest
  | owns _ :: rest => Valid pinned rest
  | calls _ callerFrame :: rest => callerFrame = frame? rest ∧ Valid pinned rest

variable {stakes rest : List Stake}

/-- A result that is on its way owns no scope. -/
@[simp] theorem owned_returns (value : Value) : owned (returns value :: rest) = owned rest := rfl

/-- What will release a scope owns it. -/
@[simp] theorem owned_owns (scope : Handle) :
    owned (owns scope :: rest) = scope :: owned rest := rfl

end Stake

/-- A value that is kept stays so when more is pinned and more scopes are given. -/
theorem Value.KeptBy.mono {pinned more : Handle → Prop} {scopes others : List Handle}
    {value : Value} (kept : value.KeptBy pinned scopes)
    (grows : ∀ target, pinned target → more target) (subset : scopes ⊆ others) :
    value.KeptBy more others := by
  intro target link
  obtain before | inside := kept target link
  · exact Or.inl (grows target before)
  · exact Or.inr (subset inside)

/-- A value that is no function is kept by anything. -/
theorem Value.keptBy_of_scope?_eq_none {pinned : Handle → Prop} {scopes : List Handle}
    {value : Value} (none : value.scope? = none) : value.KeptBy pinned scopes := by
  intro target link
  rw [none] at link
  cases link

namespace Stake

/-- Stakes stay valid when more is pinned. -/
theorem Valid.mono {pinned more : Handle → Prop} {stakes : List Stake}
    (valid : Valid pinned stakes)
    (grows : ∀ handle, pinned handle → more handle) : Valid more stakes := by
  induction stakes with
  | nil => trivial
  | cons stake rest inductionHypothesis =>
    cases stake with
    | resumes scope => exact ⟨valid.1, inductionHypothesis valid.2⟩
    | holds held =>
      refine ⟨?_, inductionHypothesis valid.2⟩
      intro value mem
      exact (valid.1 value mem).mono grows (List.Subset.refl _)
    | returns value =>
      refine ⟨?_, inductionHypothesis valid.2⟩
      intro beneath found
      exact (valid.1 beneath found).mono grows (List.Subset.refl _)
    | owns scope => exact inductionHypothesis valid
    | calls scope callerFrame => exact ⟨valid.1, inductionHypothesis valid.2⟩

/-- Beneath the innermost call, the owned scopes are those after the scope of the call. -/
theorem owned_of_beneathCall? {stakes beneath : List Stake}
    (found : beneathCall? stakes = some beneath) :
    ∃ inner scope, frame? stakes = some scope ∧ owned stakes = inner ++ scope :: owned beneath := by
  induction stakes with
  | nil => cases found
  | cons stake rest inductionHypothesis =>
    cases stake with
    | calls scope callerFrame =>
      cases found
      exact ⟨[], scope, rfl, rfl⟩
    | owns scope =>
      obtain ⟨inner, frame, same, split⟩ := inductionHypothesis found
      exact ⟨scope :: inner, frame, same, by rw [owned_owns, split, List.cons_append]⟩
    | resumes | holds | returns => exact inductionHypothesis found

/-- The scope of the innermost call is owned. -/
theorem mem_owned_of_frame? {stakes : List Stake} {frame : Handle}
    (innermost : frame? stakes = some frame) : frame ∈ owned stakes := by
  induction stakes with
  | nil => cases innermost
  | cons stake rest inductionHypothesis =>
    cases stake with
    | calls scope callerFrame =>
      cases innermost
      exact List.mem_cons_self ..
    | owns scope => exact List.mem_cons_of_mem _ (inductionHypothesis innermost)
    | resumes | holds | returns => exact inductionHypothesis innermost

/-- An active call has stakes beneath it. -/
theorem exists_beneathCall?_of_depth {stakes : List Stake} (some : depth stakes ≠ 0) :
    ∃ beneath, beneathCall? stakes = Option.some beneath := by
  induction stakes with
  | nil => exact absurd rfl some
  | cons stake rest inductionHypothesis =>
    cases stake with
    | calls => exact ⟨rest, rfl⟩
    | resumes | holds | returns | owns => exact inductionHypothesis some

/-- Held values link to scopes that are pinned or owned. -/
theorem Valid.keptBy_of_mem_values {pinned : Handle → Prop} {stakes : List Stake}
    (valid : Valid pinned stakes) {value : Value} (mem : value ∈ values stakes) :
    value.KeptBy pinned (owned stakes) := by
  have grows : ∀ handle, pinned handle → pinned handle := fun _ => id
  -- From the inside out: what is kept beneath is kept from here, where more scopes are owned.
  induction stakes with
  | nil => cases mem
  | cons stake rest inductionHypothesis =>
    cases stake with
    | resumes scope => exact inductionHypothesis valid.2 mem
    | owns scope =>
      exact (inductionHypothesis valid mem).mono grows (List.subset_cons_self _ _)
    | calls scope callerFrame =>
      exact (inductionHypothesis valid.2 mem).mono grows (List.subset_cons_self _ _)
    | holds held =>
      obtain here | later := List.mem_append.mp mem
      · exact valid.1 value here
      · exact inductionHypothesis valid.2 later
    | returns result =>
      rw [values] at mem
      split at mem
      · exact inductionHypothesis valid.2 mem
      · rename_i active
        obtain rfl | later := List.mem_cons.mp mem
        · -- The result is kept beneath the call, by scopes that are also owned from here.
          obtain ⟨beneath, found⟩ := exists_beneathCall?_of_depth active
          obtain ⟨inner, scope, -, split⟩ := owned_of_beneathCall? found
          refine (valid.1 beneath found).mono grows ?_
          rw [owned_returns, split]
          exact fun _ inside => List.mem_append_right _ (List.mem_cons_of_mem _ inside)
        · exact inductionHypothesis valid.2 later

end Stake

end Scriptlet
