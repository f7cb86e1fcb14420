import Scriptlet.Proofs.Machine.Conduct
import Scriptlet.Proofs.Machine.Lifetime
import Scriptlet.Proofs.Machine.Origin
import Scriptlet.Proofs.Node.All

/-! # Nodes of a program

A run comes to nodes of its program only: what is evaluated or executed is one of them, and a function
that is called was declared by one of them.  So a property that all nodes of a program have is one
that a run can count on at every moment.

Main definitions: `Discipline.within`, the discipline of a run that comes to nodes with a property
alone.

Main statements: `Machine.course_within`, and from it what is evaluated, executed and called. -/

namespace Scriptlet

/-! ## The discipline -/

/-- The value of a program whose nodes have a property: the scope of a function is new, and the
function was declared by a node of the kind. -/
def Value.IsWithin (first : Nat) (property : Node → Prop) : Value → Prop
  | .function closure => first ≤ closure.scope.index ∧
      ∃ line, (Node.function line closure.name closure.parameters closure.body).All property
  | _ => True

/-- A run comes to nodes with a property alone, in scopes of its own. -/
def Discipline.within (first : Nat) (property : Node → Prop) : Discipline where
  first := first
  reads scope := first ≤ scope.index
  binds scope := first ≤ scope.index
  admits := Value.IsWithin first property
  evaluates scope node := first ≤ scope.index ∧ node.All property
  executes scope node := first ≤ scope.index ∧ node.All property
  joins _ := True
  signs _ := True
  tolerates _ := True
  reads_of_isNew := id
  binds_of_isNew := id
  admits_of_plain := by
    intro value plain
    cases value with
    | function => cases plain
    | integer | float | text | undefined | builtin | null => trivial
  admits_function := by
    rintro closure ⟨isNew, line, all⟩
    exact ⟨isNew, fun _ inside node mem => ⟨inside, all.child mem⟩⟩
  tolerates_of_native := fun _ => trivial
  tolerates_of_joins := fun _ _ => trivial
  tolerates_of_signs := fun _ _ => trivial
  evaluates_reads := And.left
  evaluates_assignment := by
    rintro scope line targetLine name right ⟨isNew, all⟩
    exact ⟨isNew, isNew, all.child (by simp [Node.children])⟩
  evaluates_target := fun _ _ => trivial
  evaluates_binary := by
    rintro scope line operator left right - ⟨isNew, all⟩
    exact ⟨⟨isNew, all.child (by simp [Node.children])⟩,
      ⟨isNew, all.child (by simp [Node.children])⟩, fun _ _ => trivial⟩
  evaluates_unary := by
    rintro scope line operator operand ⟨isNew, all⟩
    exact ⟨trivial, isNew, all.child (by simp [Node.children])⟩
  evaluates_call := by
    rintro scope line name arguments ⟨isNew, all⟩ argument mem
    exact ⟨isNew, all.child mem⟩
  evaluates_other := fun _ _ => trivial
  executes_reads := And.left
  executes_function := by
    rintro scope line name parameters body ⟨isNew, all⟩
    exact ⟨isNew, fun _ => ⟨isNew, line, all⟩⟩
  executes_declaration := by
    rintro scope line name initializer ⟨isNew, all⟩
    exact ⟨isNew, fun node mem => ⟨isNew, all.child (Option.mem_toList.mpr mem)⟩⟩
  executes_returning := by
    rintro scope line value ⟨isNew, all⟩ node mem
    exact ⟨isNew, all.child (Option.mem_toList.mpr mem)⟩
  executes_block := by
    rintro scope line body ⟨-, all⟩ inner isNew node mem
    exact ⟨isNew, all.child mem⟩
  executes_conditional := by
    rintro scope line condition thenBranch elseBranch ⟨isNew, all⟩
    refine ⟨⟨isNew, all.child (by simp [Node.children])⟩, fun _ inside node mem => ?_, ?_⟩
    · exact ⟨inside, all.child (by simp [Node.children, mem])⟩
    · rintro branch ⟨⟩ _ inside node mem
      exact ⟨inside, all.child (by simp [Node.children, mem])⟩
  executes_whileLoop := by
    rintro scope line condition body ⟨isNew, all⟩
    exact ⟨⟨isNew, all.child (by simp [Node.children])⟩,
      fun _ inside node mem => ⟨inside, all.child (by simp [Node.children, mem])⟩⟩
  executes_doLoop := by
    rintro scope line condition body ⟨isNew, all⟩
    exact ⟨⟨isNew, all.child (by simp [Node.children])⟩,
      fun _ inside node mem => ⟨inside, all.child (by simp [Node.children, mem])⟩⟩
  executes_forLoop := by
    rintro scope line start condition step body ⟨-, all⟩
    refine ⟨fun _ isNew => ⟨?_, ?_, ?_⟩, fun _ isNew node mem => ?_⟩
    · rintro node ⟨⟩
      exact ⟨isNew, all.child (by simp [Node.children])⟩
    · rintro node ⟨⟩
      exact ⟨isNew, all.child (by simp [Node.children])⟩
    · rintro node ⟨⟩
      exact ⟨isNew, all.child (by simp [Node.children])⟩
    · exact ⟨isNew, all.child (by simp [Node.children, mem])⟩
  executes_expression := fun permitted _ => permitted

/-! ## Runs -/

namespace Machine

variable {settings : Settings} {body : List Node} {machine : Machine} {property : Node → Prop}

/-- When a run starts, it is within a discipline for which only new scopes may be read: the only such
scope is the root, and nothing is bound in it. -/
theorem start_conforms_of {discipline : Discipline} (rest : machine.AtRest)
    (first_eq : discipline.first = machine.store.scopes.size)
    (isNew_of_reads : ∀ {scope}, discipline.reads scope → discipline.IsNew scope)
    (enters : discipline.Enters body) :
    (State.start body machine).Conforms discipline (fun _ _ => False)
      (State.start body machine).machine.store where
  -- The only scope is the outermost one, which is new and binds nothing.
  store := {
    first_le := by
      show _ ≤ (machine.store.create none (some Store.rootName)).2.scopes.size
      rw [Store.create_size, first_eq]
      exact Nat.le_succ _
    parent_reads := by
      intro handle around live _ inside
      rw [start_parent rest live] at inside
      cases inside
    bound_admits := by
      intro handle binding reads mem
      have isNew := isNew_of_reads reads
      rw [Rules.IsNew, first_eq] at isNew
      replace mem : binding ∈
        ((machine.store.create none (some Store.rootName)).2.scope handle).bindings := mem
      rw [Store.create_bindings, Store.bindings_of_size_le isNew] at mem
      cases mem
    bindings_eq := fun _ => rfl
    names_eq := fun _ => rfl
    names_grow := fun _ => List.prefix_rfl }
  control := by
    have isNew : discipline.IsNew (machine.store.createRoot Store.rootName).1 :=
      Nat.le_of_eq (by rw [first_eq, Store.createRoot, Store.create_fst])
    exact ⟨trivial, .program (enters _ isNew)⟩

/-- A run of nodes with a property comes to nodes with that property alone. -/
theorem course_within (releases : settings.releases = true) (rest : machine.AtRest)
    (all : ∀ node ∈ body, node.All property) (now : Nat) :
    (machine.course settings body now).Conforms
      (.within machine.store.scopes.size property) (fun _ _ => False)
      (State.start body machine).machine.store :=
  course_conforms releases rest (Nat.zero_le now) (fun _ _ _ _ _ _ => id)
    (start_conforms_of rest rfl id fun _ isNew node mem => ⟨isNew, all node mem⟩)

/-- What is evaluated has the property. -/
theorem all_of_evaluating (releases : settings.releases = true) (rest : machine.AtRest)
    (all : ∀ node ∈ body, node.All property) {now : Nat} {node : Node} {scope : Handle}
    {next : Continuation .value}
    (control : (machine.course settings body now).control = .evaluating node scope next) :
    node.All property := by
  have permits := (course_within releases rest all now).control
  rw [control] at permits
  exact permits.1.2

/-- What is executed has the property. -/
theorem all_of_executing (releases : settings.releases = true) (rest : machine.AtRest)
    (all : ∀ node ∈ body, node.All property) {now : Nat} {node : Node} {scope : Handle}
    {next : Continuation .completion}
    (control : (machine.course settings body now).control = .executing node scope next) :
    node.All property := by
  have permits := (course_within releases rest all now).control
  rw [control] at permits
  exact permits.1.2

/-- What is called was declared by a node with the property. -/
theorem exists_function_of_calls (releases : settings.releases = true) (rest : machine.AtRest)
    (all : ∀ node ∈ body, node.All property) {now : Nat} {line : Int} {closure : Closure}
    (calls : (machine.course settings body now).Calls settings line closure) :
    ∃ declared, (Node.function declared closure.name closure.parameters closure.body).All
      property := by
  have within := course_within releases rest all now
  have orderly := course_orderly releases rest body now
  generalize machine.course settings body now = state at calls within orderly
  obtain ⟨conforms, permits⟩ := within
  cases calls with
  | @direct between line name scope holder next closure told declared finds holds fits =>
    -- The function is bound in a scope that may be read.
    have live := orderly.isLive_of_resumes
    have search := (Store.find?_eq_ok_iff orderly.sound.tidy orderly.sound.rooted live).mp finds
    have reads := conforms.reads_of_finds orderly.sound.tidy search live permits.1.1 holder rfl
    exact (conforms.bound_admits reads (Action.mem_of_lookup_eq_some holds)).2
  | passed =>
    cases permits.2 with
    | ground bottom => exact bottom.elim
    | argument calls admits evaluates below => exact calls.2

end Machine

end Scriptlet
