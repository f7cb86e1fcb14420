import Scriptlet.Proofs.Machine.Conduct
import Scriptlet.Proofs.Machine.Origin

/-! # The effect of a statement or an expression

Whatever is executed in a scope can change only what that scope leads to, and can add names only to
that scope itself and to scopes that are created on the way.

Main definitions:

* `Node.assigns`, `Node.confines`: an expression assigns in its own scope; a statement keeps the
  names that it binds out of its scope.
* `Discipline.around`: the discipline of what is executed in a scope.
* `Performs`: a statement or an expression is executed, from a moment of a run to another one.
* `ClosuresPrivate`, `NamesContained`: what an execution leaves as it was.

Main statements: `Machine.course_closuresPrivate` and `Machine.course_namesContained`, for every
statement and every expression that any run executes. -/

namespace Scriptlet

/-! ## Nodes that bind names -/

mutual

/-- Whether an assignment stands in an expression. -/
def Node.assigns : Node → Bool
  | .binary _ operator left right => operator == "=" || left.assigns || right.assigns
  | .unary _ _ operand => operand.assigns
  | .call _ _ arguments => Node.anyAssigns arguments
  | _ => false

/-- Whether an assignment stands in one of several expressions. -/
def Node.anyAssigns : List Node → Bool
  | [] => false
  | node :: nodes => node.assigns || Node.anyAssigns nodes

end

/-- Whether a statement binds no name in the scope that it is executed in: what is inside it has a
scope of its own, except for conditions. -/
def Node.confines : Node → Bool
  | .block .. | .forLoop .. => true
  | .conditional _ condition _ _ | .whileLoop _ condition _ | .doLoop _ condition _ =>
    !condition.assigns
  | _ => false

namespace Node

/-- Nodes assign nothing if none does. -/
theorem anyAssigns_eq_false_iff {nodes : List Node} :
    anyAssigns nodes = false ↔ ∀ node ∈ nodes, node.assigns = false := by
  induction nodes with
  | nil => simp [anyAssigns]
  | cons node nodes ih => simp [anyAssigns, ih]

/-- What confines its names is a statement, and is not evaluated to any effect. -/
theorem assigns_eq_false_of_confines {node : Node} (confines : node.confines = true) :
    node.assigns = false := by
  cases node with
  | block | forLoop | conditional | whileLoop | doLoop => simp [assigns]
  | _ => cases confines

end Node

/-! ## The discipline of what is executed in a scope -/

/-- Something may be done in the scope that all starts in, if that is free or if the thing is modest,
and in new scopes. -/
def Store.Grants (store : Store Value) (origin : Handle) (free : Prop) (scope : Handle)
    (modest : Prop) : Prop :=
  scope = origin ∧ (free ∨ modest) ∨ store.scopes.size ≤ scope.index

/-- The scopes that are reached from a scope, and new ones. -/
def Store.Supplies (store : Store Value) (origin scope : Handle) : Prop :=
  store.Reaches Value.scope? origin scope ∨ store.scopes.size ≤ scope.index

namespace Store.Grants

variable {store : Store Value} {origin scope : Handle} {free modest other : Prop}

/-- What is granted for names is granted for more of them. -/
theorem mono (grants : store.Grants origin free scope modest) (implies : modest → other) :
    store.Grants origin free scope other :=
  grants.imp (And.imp_right (Or.imp_right implies)) id

/-- What grants names supplies them. -/
theorem supplies (grants : store.Grants origin free scope modest) :
    store.Supplies origin scope := by
  obtain ⟨rfl, -⟩ | isNew := grants
  · exact Or.inl .refl
  · exact Or.inr isNew

end Store.Grants

/-- What is executed in a scope stays with the scopes that are reached from it and with new ones.  It
may bind further names in its own scope if that is free. -/
def Discipline.around (store : Store Value) (origin : Handle) (free : Prop) : Discipline where
  first := store.scopes.size
  reads := store.Supplies origin
  binds scope := store.Grants origin free scope False
  admits value := ∀ target, value.scope? = some target → store.Supplies origin target
  evaluates scope node := store.Grants origin free scope (node.assigns = false)
  executes scope node := store.Grants origin free scope (node.confines = true)
  joins _ := True
  signs _ := True
  tolerates _ := True
  reads_of_isNew := Or.inr
  binds_of_isNew := Or.inr
  admits_of_plain := by
    intro value plain target link
    rw [plain] at link
    cases link
  admits_function := fun admits => ⟨admits _ rfl, fun _ isNew _ _ => Or.inr isNew⟩
  tolerates_of_native := fun _ => trivial
  tolerates_of_joins := fun _ _ => trivial
  tolerates_of_signs := fun _ _ => trivial
  evaluates_reads := Store.Grants.supplies
  evaluates_assignment := by
    intro scope line targetLine name right grants
    exact ⟨grants.mono (by simp [Node.assigns]), grants.mono (by simp [Node.assigns])⟩
  evaluates_target := fun _ _ => trivial
  evaluates_binary := by
    intro scope line operator left right _ grants
    refine ⟨grants.mono ?_, grants.mono ?_, fun _ _ => trivial⟩ <;> simp_all [Node.assigns]
  evaluates_unary := by
    intro scope line operator operand grants
    exact ⟨trivial, grants.mono (by simp [Node.assigns])⟩
  evaluates_call := by
    intro scope line name arguments grants argument mem
    refine grants.mono fun absent => ?_
    rw [Node.assigns] at absent
    exact Node.anyAssigns_eq_false_iff.mp absent argument mem
  evaluates_other := fun _ _ => trivial
  executes_reads := Store.Grants.supplies
  executes_function := by
    intro scope line name parameters body grants
    refine ⟨grants.mono nofun, ?_⟩
    rintro identity target ⟨⟩
    exact grants.supplies
  executes_declaration := fun grants => ⟨grants.mono nofun, fun _ _ => grants.mono nofun⟩
  executes_returning := fun grants _ _ => grants.mono nofun
  executes_block := fun _ _ isNew _ _ => Or.inr isNew
  executes_conditional := fun grants => ⟨grants.mono (by simp [Node.confines]),
    fun _ isNew _ _ => Or.inr isNew, fun _ _ _ isNew _ _ => Or.inr isNew⟩
  executes_whileLoop := fun grants =>
    ⟨grants.mono (by simp [Node.confines]), fun _ isNew _ _ => Or.inr isNew⟩
  executes_doLoop := fun grants =>
    ⟨grants.mono (by simp [Node.confines]), fun _ isNew _ _ => Or.inr isNew⟩
  executes_forLoop := fun _ => ⟨fun _ isNew => ⟨fun _ _ => Or.inr isNew, fun _ _ => Or.inr isNew,
    fun _ _ => Or.inr isNew⟩, fun _ isNew _ _ => Or.inr isNew⟩
  executes_expression := by
    intro scope node grants expression
    refine grants.mono fun confines => ?_
    cases node with
    | block | forLoop | conditional | whileLoop | doLoop => cases expression
    | _ => cases confines

/-- When an execution starts, the scopes are within its discipline. -/
theorem Store.conforms_around {store : Store Value} (tidy : store.Tidy) (origin : Handle)
    (free : Prop) : store.Conforms (Discipline.around store origin free).toRules store where
  first_le := Nat.le_refl _
  parent_reads := by
    rintro handle outer live (path | isNew) inside
    · exact Or.inl (path.outward inside)
    · exact absurd (tidy.index_lt live) (Nat.not_lt.mpr isNew)
  bound_admits := by
    rintro handle ⟨name, value⟩ (path | isNew) mem target link
    · exact Or.inl (path.through mem link)
    · rw [Store.bindings_of_size_le isNew] at mem
      cases mem
  bindings_eq := fun _ => rfl
  names_eq := fun _ => rfl
  names_grow := fun _ => List.prefix_rfl

/-! ## Executions -/

/-- A statement or an expression is executed in a scope: it began at an earlier moment of a run and
did not end before now. -/
inductive Performs (history : Nat → State) (node : Node) (scope : Handle) (earlier now : Nat) : Prop
  | evaluating {next : Continuation .value} (ordered : earlier ≤ now)
      (begins : (history earlier).control = .evaluating node scope next)
      (lasts : ∀ moment, earlier ≤ moment → moment < now → ¬(history moment).control.Ends next)
  | executing {next : Continuation .completion} (ordered : earlier ≤ now)
      (begins : (history earlier).control = .executing node scope next)
      (lasts : ∀ moment, earlier ≤ moment → moment < now → ¬(history moment).control.Ends next)

/-- The value that an expression has just given, or that has just been returned. -/
def Control.result? : Control → Option Value
  | .delivering value _ | .completing (.returned value) _ => some value
  | _ => none

/-- A value that was given within rules is allowed. -/
theorem Rules.Permits.admits_result {rules : Rules}
    {ground : (awaited : Awaited) → Continuation awaited → Prop} {control : Control} {value : Value}
    (permits : rules.Permits ground control) (result : control.result? = some value) :
    rules.admits value := by
  cases control with
  | delivering given next =>
    cases result
    exact permits.1
  | completing completion next =>
    cases completion with
    | returned given =>
      cases result
      exact permits.1
    | normal | broken | continued => cases result
  | evaluating | executing | unwinding | halted => cases result

namespace Machine

variable {settings : Settings} {body : List Node} {machine : Machine} {node : Node} {scope : Handle}
  {earlier now : Nat}

/-- The part of a run above what is left to do after an execution is within its discipline. -/
theorem course_conforms_around (part : Part) {free : Prop} (releases : settings.releases = true)
    (rest : machine.AtRest) (ordered : earlier ≤ now)
    (lasts : ∀ moment, earlier ≤ moment → moment < now →
      ¬(machine.course settings body moment).control.Ends part.2)
    (permits : (Discipline.around (machine.course settings body earlier).machine.store scope
      free).Permits (fun awaited next => ⟨awaited, next⟩ = part)
      (machine.course settings body earlier).control) :
    (machine.course settings body now).Conforms
      (.around (machine.course settings body earlier).machine.store scope free)
      (fun awaited next => ⟨awaited, next⟩ = part)
      (machine.course settings body earlier).machine.store := by
  have tidy := (course_orderly releases rest body earlier).sound.tidy
  refine course_conforms releases rest ordered ?_ ⟨Store.conforms_around tidy scope free, permits⟩
  rintro moment after before awaited next ends rfl
  exact lasts moment after before ends

/-- What is executed is executed in a live scope. -/
theorem isLive_of_performs (releases : settings.releases = true) (rest : machine.AtRest)
    (performs : Performs (machine.course settings body) node scope earlier now) :
    (machine.course settings body earlier).machine.store.IsLive scope := by
  have orderly := course_orderly releases rest body earlier
  cases performs with
  | evaluating _ begins _ | executing _ begins _ =>
    rw [State.Orderly, begins] at orderly
    exact orderly.isLive_of_resumes

/-- An execution stays within the discipline of its scope, where names may be bound only if the node
does not confine them. -/
theorem exists_conforms_of_performs (releases : settings.releases = true) (rest : machine.AtRest)
    (performs : Performs (machine.course settings body) node scope earlier now) :
    ∃ ground, (machine.course settings body now).Conforms
      (.around (machine.course settings body earlier).machine.store scope (node.confines = false))
      ground (machine.course settings body earlier).machine.store := by
  cases performs with
  | @evaluating next ordered begins lasts =>
    refine ⟨_, course_conforms_around ⟨.value, next⟩ releases rest ordered lasts ?_⟩
    rw [begins]
    refine ⟨Or.inl ⟨rfl, ?_⟩, .ground rfl⟩
    -- What confines its names is no expression, so evaluating it assigns nothing.
    cases confines : node.confines with
    | false => exact Or.inl rfl
    | true => exact Or.inr (Node.assigns_eq_false_of_confines confines)
  | @executing next ordered begins lasts =>
    refine ⟨_, course_conforms_around ⟨.completion, next⟩ releases rest ordered lasts ?_⟩
    rw [begins]
    exact ⟨Or.inl ⟨rfl, Bool.eq_false_or_eq_true _ |>.symm⟩, .ground rfl⟩

end Machine

/-! ## An execution in a run -/

/-- The node that is about to begin, and the scope that it begins in. -/
def Control.begun? : Control → Option (Node × Handle)
  | .evaluating node scope _ | .executing node scope _ => some (node, scope)
  | _ => none

/-- Whether something has ended. -/
def Control.hasEnded : Control → Bool
  | .delivering .. | .completing .. | .unwinding .. => true
  | _ => false

/-- What ends has nothing more to do than what follows it. -/
theorem Control.Ends.parts_eq {control : Control} {awaited : Awaited} {next : Continuation awaited}
    (ends : control.Ends next) : control.hasEnded = true ∧ control.parts = next.parts := by
  cases ends <;> exact ⟨rfl, rfl⟩

/-- What has begun is executed as long as what ends is above it. -/
theorem performs_of_begun {history : Nat → State} {node : Node} {scope : Handle} {earlier now : Nat}
    (ordered : earlier ≤ now) (begun : (history earlier).control.begun? = some (node, scope))
    (lasts : ∀ moment < now, earlier ≤ moment → (history moment).control.hasEnded = true →
      (history moment).control.parts.length ≠ (history earlier).control.parts.length) :
    Performs history node scope earlier now := by
  have still : ∀ {awaited : Awaited} {next : Continuation awaited},
      (history earlier).control.parts = next.parts → ∀ moment, earlier ≤ moment → moment < now →
      ¬(history moment).control.Ends next := by
    intro awaited next parts_eq moment after before ends
    obtain ⟨ended, same⟩ := ends.parts_eq
    exact lasts moment before after ended (by rw [same, parts_eq])
  cases control : (history earlier).control with
  | evaluating other place next =>
    rw [control] at begun
    cases begun
    exact .evaluating ordered control (still (by rw [control]; rfl))
  | executing other place next =>
    rw [control] at begun
    cases begun
    exact .executing ordered control (still (by rw [control]; rfl))
  | delivering | completing | unwinding | halted =>
    rw [control] at begun
    cases begun

/-- A program in which a function is called that assigns to a name which its caller has declared. -/
def callerProgram : List Node :=
  [.function 1 "touch" [] [.binary 2 "=" (.reference 2 "secret") (.integer 2 2)],
    .function 4 "keep" []
      [.declaration 5 "secret" (some (.integer 5 1)),
        .conditional 6 (.reference 6 "secret") [.call 7 "touch" []] none],
    .call 10 "keep" []]

/-! ## What an execution leaves as it was -/

/-- What an execution in a scope has done to scopes and functions that were out of its reach. -/
structure ClosuresPrivate (before now : State) (scope : Handle) : Prop where
  /-- A live scope that was not reached has the bindings that it had. -/
  unreached : ∀ handle ∈ before.machine.store.live,
    ¬before.machine.store.Reaches Value.scope? scope handle →
    (now.machine.store.scope handle).bindings = (before.machine.store.scope handle).bindings
  /-- A function that is bound anywhere and was not bound there before was declared in a scope that
  was reached, or in one that was created since. -/
  bound : ∀ handle name closure,
    (name, .function closure) ∈ (now.machine.store.scope handle).bindings →
    (name, .function closure) ∉ (before.machine.store.scope handle).bindings →
    before.machine.store.Reaches Value.scope? scope closure.scope ∨
      before.machine.store.serial < closure.scope.serial
  /-- So was a function that is the result. -/
  result : ∀ closure, now.control.result? = some (.function closure) →
    before.machine.store.Reaches Value.scope? scope closure.scope ∨
      before.machine.store.serial < closure.scope.serial

/-- What an execution of a node in a scope has done to the names of the scopes that existed. -/
structure NamesContained (before now : State) (node : Node) (scope : Handle) : Prop where
  /-- The other scopes have the names that they had, in the same order. -/
  others : ∀ handle, handle.serial ≤ before.machine.store.serial → handle ≠ scope →
    now.machine.store.names handle = before.machine.store.names handle
  /-- The names that the scope had come first among those that it has. -/
  earlier_first : before.machine.store.names scope <+: now.machine.store.names scope
  /-- A node that confines its names has added none. -/
  confined : node.confines = true →
    now.machine.store.names scope = before.machine.store.names scope

namespace Machine

variable {settings : Settings} {body : List Node} {machine : Machine} {node : Node} {scope : Handle}
  {earlier now : Nat}

/-- Whatever is executed in a scope, from its beginning to its end, leaves the scopes that it does
not reach as they are, and comes by no function of theirs. -/
theorem course_closuresPrivate (releases : settings.releases = true) (rest : machine.AtRest)
    (performs : Performs (machine.course settings body) node scope earlier now) :
    ClosuresPrivate (machine.course settings body earlier) (machine.course settings body now)
      scope := by
  obtain ⟨ground, conforms, permits⟩ := exists_conforms_of_performs releases rest performs
  have tidy := (course_orderly releases rest body earlier).sound.tidy
  have supplied : ∀ {target : Handle},
      (machine.course settings body earlier).machine.store.Supplies scope target →
      (machine.course settings body earlier).machine.store.Reaches Value.scope? scope target ∨
        (machine.course settings body earlier).machine.store.serial < target.serial :=
    fun supplies => supplies.imp_right Nat.lt_succ_of_le
  refine ⟨?_, ?_, ?_⟩
  -- A live scope is not new, so it may be read only if it was reached.
  · intro handle mem hidden
    refine conforms.bindings_eq ?_
    rintro (path | isNew)
    · exact hidden path
    · exact absurd (tidy.index_lt (tidy.mem_live_iff.mp mem)) (Nat.not_lt.mpr isNew)
  -- A scope that may be read holds allowed functions alone, and no other has changed.
  · intro handle name closure mem since
    by_cases reads : (machine.course settings body earlier).machine.store.Supplies scope handle
    · exact supplied (conforms.bound_admits reads mem _ rfl)
    · rw [conforms.bindings_eq reads] at mem
      exact absurd mem since
  · intro closure result
    exact supplied (permits.admits_result result _ rfl)

/-- From the scope of the inner call, only the root is reached: the function was declared there. -/
theorem callerProgram_reaches {handle : Handle}
    (path : (Machine.initial.course .plain callerProgram 16).machine.store.Reaches Value.scope? ⟨3⟩
      handle) : handle = ⟨3⟩ ∨ handle = ⟨0⟩ := by
  induction path with
  | refl => exact Or.inl rfl
  | outward _ inside ih =>
    have parents :
        ((Machine.initial.course .plain callerProgram 16).machine.store.parent ⟨3⟩).toOption =
            some (some ⟨0⟩) ∧
          ((Machine.initial.course .plain callerProgram 16).machine.store.parent ⟨0⟩).toOption =
            some none := by
      decide +kernel
    obtain rfl | rfl := ih
    · rw [inside] at parents
      exact Or.inr (Option.some.inj (Option.some.inj parents.1))
    · rw [inside] at parents
      cases Option.some.inj parents.2
  | @through holder target _ _ _ bound link ih =>
    have links : ∀ holder ∈ [(⟨3⟩ : Handle), ⟨0⟩],
        ∀ target ∈ ((Machine.initial.course .plain callerProgram 16).machine.store.scope
          holder).bindings.filterMap fun binding => binding.2.scope?, target = ⟨0⟩ := by
      decide +kernel
    exact Or.inr (links holder (by simpa using ih) target
      (List.mem_filterMap.mpr ⟨_, bound, link⟩))

/-- The assignment in the called function does not reach the scope of the caller, which is live. -/
theorem callerProgram_closuresPrivate :
    (∃ node, Performs (Machine.initial.course .plain callerProgram) node ⟨3⟩ 16 21 ∧
      ClosuresPrivate (Machine.initial.course .plain callerProgram 16)
        (Machine.initial.course .plain callerProgram 21) ⟨3⟩) ∧
      ⟨1⟩ ∈ (Machine.initial.course .plain callerProgram 16).machine.store.live ∧
      ¬(Machine.initial.course .plain callerProgram 16).machine.store.Reaches Value.scope? ⟨3⟩
        ⟨1⟩ := by
  have begun : (Machine.initial.course .plain callerProgram 16).control.begun?.map Prod.snd =
      some ⟨3⟩ := by decide +kernel
  obtain ⟨⟨node, scope⟩, begun, rfl⟩ := Option.map_eq_some_iff.mp begun
  have performs : Performs (Machine.initial.course .plain callerProgram) node _ 16 21 :=
    performs_of_begun (by decide) begun (by decide +kernel)
  refine ⟨⟨node, performs, course_closuresPrivate rfl atRest_initial performs⟩, by decide +kernel,
    fun path => ?_⟩
  obtain ⟨⟨⟩⟩ | ⟨⟨⟩⟩ := callerProgram_reaches path

/-- Whatever is executed in a scope, from its beginning to its end, adds no names to other scopes
that existed before, and to its own scope only after those that are there. -/
theorem course_namesContained (releases : settings.releases = true) (rest : machine.AtRest)
    (performs : Performs (machine.course settings body) node scope earlier now) :
    NamesContained (machine.course settings body earlier) (machine.course settings body now) node
      scope := by
  obtain ⟨ground, conforms, -⟩ := exists_conforms_of_performs releases rest performs
  -- Names may be bound in new scopes, and in the scope itself unless the node confines them.
  refine ⟨?_, conforms.names_grow scope, ?_⟩
  · intro handle old other
    refine conforms.names_eq ?_
    rintro (⟨same, -⟩ | isNew)
    · exact other same
    · exact absurd old (Nat.not_le.mpr (Nat.lt_succ_of_le isNew))
  · intro confines
    have live := isLive_of_performs releases rest performs
    have tidy := (course_orderly releases rest body earlier).sound.tidy
    refine conforms.names_eq ?_
    rintro (⟨-, free | ⟨⟨⟩⟩⟩ | isNew)
    · rw [confines] at free
      cases free
    · exact absurd (tidy.index_lt live) (Nat.not_lt.mpr isNew)

/-- The conditional in the caller adds no name to its scope; the function that is called from it binds
one in the scope of its call. -/
theorem callerProgram_namesContained :
    (∃ node, node.confines = true ∧
      Performs (Machine.initial.course .plain callerProgram) node ⟨1⟩ 11 26 ∧
      NamesContained (Machine.initial.course .plain callerProgram 11)
        (Machine.initial.course .plain callerProgram 26) node ⟨1⟩) ∧
      (Machine.initial.course .plain callerProgram 26).machine.store.names ⟨1⟩ = ["secret"] ∧
      (Machine.initial.course .plain callerProgram 26).machine.store.names ⟨3⟩ = ["secret"] := by
  have begun : (Machine.initial.course .plain callerProgram 11).control.begun?.map
      (fun begun => (begun.1.confines, begun.2)) = some (true, ⟨1⟩) := by decide +kernel
  obtain ⟨⟨node, scope⟩, begun, found⟩ := Option.map_eq_some_iff.mp begun
  obtain ⟨confines, rfl⟩ := Prod.mk.inj found
  have performs : Performs (Machine.initial.course .plain callerProgram) node _ 11 26 :=
    performs_of_begun (by decide) begun (by decide +kernel)
  exact ⟨⟨node, confines, performs, course_namesContained rfl atRest_initial performs⟩,
    by decide +kernel, by decide +kernel⟩

end Machine

end Scriptlet
