import Scriptlet.Proofs.Machine.Twin

/-! # Disciplines

What a program can do to scopes depends on which code it runs where and on which values it holds.  A
discipline says which of them are allowed, in such a way that what is allowed leads only to what is
allowed: the parts of an allowed expression may be evaluated in the same scope, the body of an
allowed function may be executed in a new scope, and so on, one law for each construct.

Main definitions:

* `Rules`, `Discipline`: what is allowed, and the laws that make it closed.
* `Store.Conforms`: the scopes that may be read hold allowed values and are inside such scopes, and
  the others are as they were in an earlier store.
* `Rules.Continues`, `Rules.Permits`: what is left to do is allowed, down to a ground.

Main statements: what each change of a store needs so that the store still conforms. -/

namespace Scriptlet

/-! ## Nodes -/

/-- Whether an error tells of a node that has no meaning where it stands. -/
def Cause.isForeign : Cause → Bool
  | unknownBinary _ | unknownUnary _ | notVariable | notExpression _ => true
  | _ => false

/-- Whether a node is of a type that can be evaluated. -/
def Node.isEvaluable : Node → Bool
  | integer .. | float .. | text .. | reference .. | binary .. | unary .. | call .. => true
  | _ => false

/-- Whether a node is of a type that can only be executed. -/
def Node.isDirective : Node → Bool
  | function .. | declaration .. | returning .. | breaking .. | continuing .. | conditional ..
  | whileLoop .. | doLoop .. | forLoop .. | block .. => true
  | _ => false

/-- A node of none of the types that are evaluated cannot be evaluated. -/
theorem Node.isEvaluable_eq_false {node : Node} (notInteger : ∀ line value, node ≠ .integer line value)
    (notFloat : ∀ line value, node ≠ .float line value)
    (notText : ∀ line value, node ≠ .text line value)
    (notReference : ∀ line name, node ≠ .reference line name)
    (notBinary : ∀ line operator left right, node ≠ .binary line operator left right)
    (notUnary : ∀ line operator operand, node ≠ .unary line operator operand)
    (notCall : ∀ line name arguments, node ≠ .call line name arguments) :
    node.isEvaluable = false := by
  cases node with
  | integer => exact absurd rfl (notInteger _ _)
  | float => exact absurd rfl (notFloat _ _)
  | text => exact absurd rfl (notText _ _)
  | reference => exact absurd rfl (notReference _ _)
  | binary => exact absurd rfl (notBinary _ _ _ _)
  | unary => exact absurd rfl (notUnary _ _ _)
  | call => exact absurd rfl (notCall _ _ _)
  | program | function | declaration | returning | breaking | continuing | conditional
  | whileLoop | doLoop | forLoop | block => rfl

/-- A node of none of the types that are executed is no directive. -/
theorem Node.isDirective_eq_false {node : Node}
    (notFunction : ∀ line name parameters body, node ≠ .function line name parameters body)
    (notInitialized : ∀ line name value, node ≠ .declaration line name (some value))
    (notDeclaration : ∀ line name, node ≠ .declaration line name none)
    (notReturningOf : ∀ line value, node ≠ .returning line (some value))
    (notReturning : ∀ line, node ≠ .returning line none)
    (notBreaking : ∀ line, node ≠ .breaking line)
    (notContinuing : ∀ line, node ≠ .continuing line)
    (notBlock : ∀ line body, node ≠ .block line body)
    (notConditional : ∀ line condition thenBranch elseBranch,
      node ≠ .conditional line condition thenBranch elseBranch)
    (notWhile : ∀ line condition body, node ≠ .whileLoop line condition body)
    (notDo : ∀ line condition body, node ≠ .doLoop line condition body)
    (notFor : ∀ line start condition step body, node ≠ .forLoop line start condition step body) :
    node.isDirective = false := by
  cases node with
  | function => exact absurd rfl (notFunction _ _ _ _)
  | declaration line name initializer =>
    cases initializer with
    | some initializer => exact absurd rfl (notInitialized _ _ _)
    | none => exact absurd rfl (notDeclaration _ _)
  | returning line value =>
    cases value with
    | some value => exact absurd rfl (notReturningOf _ _)
    | none => exact absurd rfl (notReturning _)
  | breaking => exact absurd rfl (notBreaking _)
  | continuing => exact absurd rfl (notContinuing _)
  | block => exact absurd rfl (notBlock _ _)
  | conditional => exact absurd rfl (notConditional _ _ _ _)
  | whileLoop => exact absurd rfl (notWhile _ _ _)
  | doLoop => exact absurd rfl (notDo _ _ _)
  | forLoop => exact absurd rfl (notFor _ _ _ _ _)
  | program | integer | float | text | reference | binary | unary | call => rfl

/-! ## What is allowed -/

/-- What code may do. -/
structure Rules where
  /-- The number of scopes that are not new. -/
  first : Nat
  /-- The scopes whose names may be read and assigned. -/
  reads : Handle → Prop
  /-- The scopes in which further names may be bound. -/
  binds : Handle → Prop
  /-- The values that may be held. -/
  admits : Value → Prop
  /-- The expressions that may be evaluated in a scope. -/
  evaluates : Handle → Node → Prop
  /-- The statements that may be executed in a scope. -/
  executes : Handle → Node → Prop
  /-- The operators that may be applied to two values. -/
  joins : String → Prop
  /-- The operators that may be applied to one value. -/
  signs : String → Prop
  /-- The causes for which a run may stop. -/
  tolerates : Cause → Prop

namespace Rules

/-- A scope is new. -/
def IsNew (rules : Rules) (scope : Handle) : Prop :=
  rules.first ≤ scope.index

/-- Statements may be executed in any new scope. -/
def Enters (rules : Rules) (body : List Node) : Prop :=
  ∀ scope, rules.IsNew scope → ∀ node ∈ body, rules.executes scope node

/-- A loop may go on. -/
structure Loops (rules : Rules) (loop : Loop) : Prop where
  reads : rules.reads loop.scope
  condition : ∀ node ∈ loop.condition, rules.evaluates loop.scope node
  step : ∀ node ∈ loop.step, rules.evaluates loop.scope node
  body : rules.Enters loop.body

/-- A failure may stop a run. -/
def Allows (rules : Rules) : Failure → Prop
  | .error error => rules.tolerates error.cause
  | .fault _ | .tooLarge | .unwritable => True

/-- A run may stop with an error that may stop it, whether or not its report can be written. -/
theorem allows_ofError {rules : Rules} {error : Error} (tolerates : rules.tolerates error.cause) :
    rules.Allows (.ofError error) := by
  rw [Failure.ofError]
  split
  · exact tolerates
  · exact trivial

end Rules

/-- Rules that lead from what is allowed only to what is allowed. -/
structure Discipline extends Rules where
  reads_of_isNew : ∀ {scope}, toRules.IsNew scope → reads scope
  binds_of_isNew : ∀ {scope}, toRules.IsNew scope → binds scope
  admits_of_plain : ∀ {value : Value}, value.scope? = none → admits value
  admits_function : ∀ {closure}, admits (.function closure) →
    reads closure.scope ∧ toRules.Enters closure.body
  tolerates_of_native : ∀ {cause : Cause}, cause.isForeign = false → tolerates cause
  tolerates_of_joins : ∀ {operator left right cause}, joins operator →
    Operator.binary operator left right = .error (.error cause) → tolerates cause
  tolerates_of_signs : ∀ {operator operand cause}, signs operator →
    Operator.unary operator operand = .error (.error cause) → tolerates cause
  evaluates_reads : ∀ {scope node}, evaluates scope node → reads scope
  evaluates_assignment : ∀ {scope line targetLine name right},
    evaluates scope (.binary line "=" (.reference targetLine name) right) →
    binds scope ∧ evaluates scope right
  evaluates_target : ∀ {scope line target right}, evaluates scope (.binary line "=" target right) →
    (∀ targetLine name, target ≠ .reference targetLine name) → tolerates .notVariable
  evaluates_binary : ∀ {scope line operator left right}, operator ≠ "=" →
    evaluates scope (.binary line operator left right) →
    evaluates scope left ∧ evaluates scope right ∧
      (operator ≠ "&&" → operator ≠ "||" → joins operator)
  evaluates_unary : ∀ {scope line operator operand},
    evaluates scope (.unary line operator operand) → signs operator ∧ evaluates scope operand
  evaluates_call : ∀ {scope line name arguments}, evaluates scope (.call line name arguments) →
    ∀ argument ∈ arguments, evaluates scope argument
  evaluates_other : ∀ {scope node}, evaluates scope node → node.isEvaluable = false →
    tolerates (.notExpression node.typeName)
  executes_reads : ∀ {scope node}, executes scope node → reads scope
  executes_function : ∀ {scope line name parameters body},
    executes scope (.function line name parameters body) →
    binds scope ∧ ∀ identity, admits (.function { identity, name, parameters, body, scope })
  executes_declaration : ∀ {scope line name initializer},
    executes scope (.declaration line name initializer) →
    binds scope ∧ ∀ node ∈ initializer, evaluates scope node
  executes_returning : ∀ {scope line value}, executes scope (.returning line value) →
    ∀ node ∈ value, evaluates scope node
  executes_block : ∀ {scope line body}, executes scope (.block line body) → toRules.Enters body
  executes_conditional : ∀ {scope line condition thenBranch elseBranch},
    executes scope (.conditional line condition thenBranch elseBranch) →
    evaluates scope condition ∧ toRules.Enters thenBranch ∧
      ∀ branch ∈ elseBranch, toRules.Enters branch
  executes_whileLoop : ∀ {scope line condition body},
    executes scope (.whileLoop line condition body) →
    evaluates scope condition ∧ toRules.Enters body
  executes_doLoop : ∀ {scope line condition body},
    executes scope (.doLoop line condition body) →
    evaluates scope condition ∧ toRules.Enters body
  executes_forLoop : ∀ {scope line start condition step body},
    executes scope (.forLoop line start condition step body) →
    (∀ inner, toRules.IsNew inner → (∀ node ∈ start, executes inner node) ∧
      (∀ node ∈ condition, evaluates inner node) ∧ ∀ node ∈ step, evaluates inner node) ∧
      toRules.Enters body
  executes_expression : ∀ {scope node}, executes scope node → node.isDirective = false →
    evaluates scope node

/-! ## Names of a scope -/

/-- The names that a scope binds, in the order in which they were first bound. -/
def Store.names (store : Store Value) (handle : Handle) : List String :=
  (store.scope handle).bindings.map Prod.fst

section Names

variable {α : Type} {key : String} {value : α} {bindings : List (String × α)}

/-- A name is found if and only if it is one of the names. -/
theorem isSome_lookup_iff : (bindings.lookup key).isSome ↔ key ∈ bindings.map Prod.fst := by
  induction bindings with
  | nil => simp
  | cons binding bindings ih =>
    obtain ⟨other, held⟩ := binding
    rw [List.lookup_cons, List.map_cons, List.mem_cons]
    by_cases same : key = other
    · simp [same]
    · rw [beq_false_of_ne same, ih]
      exact (or_iff_right same).symm

/-- A name that is there keeps its place. -/
theorem map_fst_bindName_of_mem (mem : key ∈ bindings.map Prod.fst) :
    (bindName key value bindings).map Prod.fst = bindings.map Prod.fst := by
  induction bindings with
  | nil => cases mem
  | cons binding bindings ih =>
    obtain ⟨other, held⟩ := binding
    rw [bindName]
    by_cases same : other = key
    · rw [if_pos same, List.map_cons, List.map_cons, same]
    · obtain here | later := List.mem_cons.mp mem
      · exact absurd here.symm same
      · rw [if_neg same, List.map_cons, List.map_cons, ih later]

/-- A name that is new comes last. -/
theorem map_fst_bindName_of_not_mem (absent : key ∉ bindings.map Prod.fst) :
    (bindName key value bindings).map Prod.fst = bindings.map Prod.fst ++ [key] := by
  induction bindings with
  | nil => rfl
  | cons binding bindings ih =>
    obtain ⟨other, held⟩ := binding
    rw [List.map_cons, List.mem_cons, not_or] at absent
    rw [bindName, if_neg (Ne.symm absent.1), List.map_cons, List.map_cons, ih absent.2,
      List.cons_append]

end Names

namespace Store

variable {store : Store Value} {handle : Handle} {key : String} {value : Value}

/-- Nothing is bound in a scope that has not been created. -/
theorem bindings_of_size_le (missing : store.scopes.size ≤ handle.index) :
    (store.scope handle).bindings = [] := by
  rw [scope, Array.getD, dif_neg (Nat.not_lt.mpr missing)]
  rfl

/-- A scope binds the names that it has. -/
theorem binds_iff : store.binds handle key = true ↔ key ∈ store.names handle :=
  isSome_lookup_iff

/-- No name is added where the name is bound already. -/
theorem names_bind_of_binds (bound : store.binds handle key = true) (other : Handle) :
    (store.bind handle key value).names other = store.names other := by
  obtain ⟨rfl, -, after⟩ | after := bind_scope_eq_or store handle key value other
  · rw [names, after]
    exact map_fst_bindName_of_mem (binds_iff.mp bound)
  · rw [names, after, names]

/-- Names are only added after those that are there. -/
theorem names_grow_bind (other : Handle) :
    store.names other <+: (store.bind handle key value).names other := by
  by_cases bound : store.binds handle key = true
  · exact ⟨[], (List.append_nil _).trans (names_bind_of_binds bound other).symm⟩
  · obtain ⟨rfl, -, after⟩ | after := bind_scope_eq_or store handle key value other
    · have absent := mt binds_iff.mpr bound
      rw [names, names, after]
      exact ⟨[key], (map_fst_bindName_of_not_mem absent).symm⟩
    · have same : (store.bind handle key value).names other = store.names other := by
        rw [names, names, after]
      exact ⟨[], (List.append_nil _).trans same.symm⟩

end Store

/-! ## Stores -/

/-- A store that code has changed within rules, since it was as given. -/
structure Store.Conforms (store : Store Value) (rules : Rules) (base : Store Value) : Prop where
  /-- Scopes that will be created are new. -/
  first_le : rules.first ≤ store.scopes.size
  /-- A scope that may be read is inside one that may be read. -/
  parent_reads : ∀ {handle around}, store.IsLive handle → rules.reads handle →
    store.parent handle = .ok (some around) → rules.reads around
  /-- A scope that may be read holds allowed values. -/
  bound_admits : ∀ {handle} {binding : String × Value}, rules.reads handle →
    binding ∈ (store.scope handle).bindings → rules.admits binding.2
  /-- The other scopes have the bindings that they had. -/
  bindings_eq : ∀ {handle}, ¬rules.reads handle →
    (store.scope handle).bindings = (base.scope handle).bindings
  /-- A scope in which no further names may be bound has the names that it had. -/
  names_eq : ∀ {handle}, ¬rules.binds handle → store.names handle = base.names handle
  /-- Names are only added after those that were there. -/
  names_grow : ∀ handle, base.names handle <+: store.names handle

namespace Store.Conforms

variable {rules : Rules} {base store : Store Value}

/-- What is found from a scope that may be read may be read. -/
theorem reads_of_finds (conforms : store.Conforms rules base) (tidy : store.Tidy) {name : String}
    {scope : Handle} {found : Option Handle} (finds : store.Finds name scope found)
    (live : store.IsLive scope) (reads : rules.reads scope) :
    ∀ holder ∈ found, rules.reads holder := by
  induction finds with
  | here =>
    rintro holder ⟨⟩
    exact reads
  | nowhere => nofun
  | outward _ inside _ ih =>
    exact ih (tidy.parent_isLive inside) (conforms.parent_reads live reads inside)

/-- A scope is created inside one that may be read. -/
theorem createChild (conforms : store.Conforms rules base) (sound : store.Sound Value.scope?)
    {around : Handle} (live : store.IsLive around) (reads : rules.reads around)
    (name : Option String) : (store.createChild around name).2.Conforms rules base where
  first_le := by
    rw [Store.createChild, create_size]
    exact Nat.le_succ_of_le conforms.first_le
  parent_reads := by
    intro handle outer created allowed inside
    obtain before | rfl := sound.tidy.create_isLive_iff.mp created
    · rw [Store.createChild, create_parent_of_isLive sound.tidy sound.rooted before] at inside
      exact conforms.parent_reads before allowed inside
    · rw [createChild_parent_new sound.tidy live] at inside
      cases inside
      exact reads
  -- A new scope binds nothing yet.
  bound_admits := by
    intro handle binding allowed mem
    rw [Store.createChild, create_bindings] at mem
    exact conforms.bound_admits allowed mem
  bindings_eq := by
    intro handle hidden
    rw [Store.createChild, create_bindings]
    exact conforms.bindings_eq hidden
  names_eq := by
    intro handle closed
    rw [names, Store.createChild, create_bindings]
    exact conforms.names_eq closed
  names_grow := by
    intro handle
    rw [names.eq_1 (Prod.snd _), Store.createChild, create_bindings]
    exact conforms.names_grow handle

/-- An allowed value is bound in a scope that may be read; if the name is new there, further names
may be bound. -/
theorem bind (conforms : store.Conforms rules base) {handle : Handle} {name : String}
    {value : Value} (reads : rules.reads handle) (admits : rules.admits value)
    (known : store.binds handle name = true ∨ rules.binds handle) :
    (store.bind handle name value).Conforms rules base where
  first_le := by
    rw [bind_size]
    exact conforms.first_le
  parent_reads := by
    intro other around live allowed inside
    rw [(SameShape.bind store handle name value).parent_eq] at inside
    exact conforms.parent_reads (bind_isLive_iff.mp live) allowed inside
  bound_admits := by
    rintro other ⟨label, former⟩ allowed mem
    obtain ⟨-, rfl⟩ | before := mem_bindings_bind mem
    · exact admits
    · exact conforms.bound_admits allowed before
  bindings_eq := by
    intro other hidden
    rw [bind_scope_of_ne (by rintro rfl; exact hidden reads)]
    exact conforms.bindings_eq hidden
  names_eq := by
    intro other closed
    rw [← conforms.names_eq closed]
    obtain bound | further := known
    · exact names_bind_of_binds bound other
    · rw [names, names, bind_scope_of_ne (by rintro rfl; exact closed further)]
  names_grow := fun other => (conforms.names_grow other).trans (names_grow_bind other)

/-- Pinning keeps to the rules. -/
theorem withPins (conforms : store.Conforms rules base) (pins : Std.TreeSet Nat) :
    (store.withPins pins).Conforms rules base :=
  ⟨conforms.first_le, conforms.parent_reads, conforms.bound_admits, conforms.bindings_eq,
    conforms.names_eq, conforms.names_grow⟩

/-- So does releasing a scope. -/
theorem release (conforms : store.Conforms rules base) (scope : Handle) :
    (store.release scope).2.Conforms rules base where
  first_le := by
    rw [release_scopes]
    exact conforms.first_le
  parent_reads := by
    intro handle around live allowed inside
    refine conforms.parent_reads (release_isLive_iff.mp live).1 allowed ?_
    obtain ⟨released, unpinned, -⟩ | ⟨-, after⟩ := release_snd_eq_or store scope
    · -- A slot that is still filled was filled before.
      obtain ⟨id, named, held⟩ := parent_eq_ok_some_iff.mp inside
      rw [released.release_slots unpinned] at held
      rw [release_scope] at named
      split at held
      · cases held
      · exact parent_eq_ok_some_iff.mpr ⟨id, named, held⟩
    · rwa [after] at inside
  -- Bindings stay as they are, released or not.
  bound_admits := by
    intro handle binding allowed mem
    rw [release_scope] at mem
    exact conforms.bound_admits allowed mem
  bindings_eq := by
    intro handle hidden
    rw [release_scope]
    exact conforms.bindings_eq hidden
  names_eq := by
    intro handle closed
    rw [names, release_scope]
    exact conforms.names_eq closed
  names_grow := by
    intro handle
    rw [names.eq_1 (Prod.snd _), release_scope]
    exact conforms.names_grow handle

/-- So does clearing the store. -/
theorem clear (conforms : store.Conforms rules base) : store.clear.Conforms rules base :=
  ⟨conforms.first_le, fun live => absurd live not_isLive_clear, conforms.bound_admits,
    conforms.bindings_eq, conforms.names_eq, conforms.names_grow⟩

end Store.Conforms

/-! ## What is left to do -/

/-- The value with which a statement ends is allowed. -/
def Rules.Completes (rules : Rules) : Completion → Prop
  | .returned value => rules.admits value
  | .normal | .broken | .continued => True

/-- A function that is being called is allowed. -/
def Rules.Calls (rules : Rules) : Callee → Prop
  | .declared closure => rules.admits (.function closure)
  | .builtin _ => True

/-- What is left to do is allowed, down to a ground, about which nothing is said. -/
inductive Rules.Continues (rules : Rules)
    (ground : (awaited : Awaited) → Continuation awaited → Prop) :
    {awaited : Awaited} → Continuation awaited → Prop
  | ground {awaited : Awaited} {next : Continuation awaited} (bottom : ground awaited next) :
      Continues rules ground next
  | assigning {name : String} {scope : Handle} {next : Continuation .value}
      (reads : rules.reads scope) (binds : rules.binds scope) (below : Continues rules ground next) :
      Continues rules ground (.assigning name scope next)
  | conjunction {right : Node} {scope : Handle} {next : Continuation .value}
      (evaluates : rules.evaluates scope right) (below : Continues rules ground next) :
      Continues rules ground (.conjunction right scope next)
  | disjunction {right : Node} {scope : Handle} {next : Continuation .value}
      (evaluates : rules.evaluates scope right) (below : Continues rules ground next) :
      Continues rules ground (.disjunction right scope next)
  | truth {next : Continuation .value} (below : Continues rules ground next) :
      Continues rules ground (.truth next)
  | leftOperand {line : Int} {operator : String} {right : Node} {scope : Handle}
      {next : Continuation .value} (joins : rules.joins operator)
      (evaluates : rules.evaluates scope right) (below : Continues rules ground next) :
      Continues rules ground (.leftOperand line operator right scope next)
  | rightOperand {line : Int} {operator : String} {left : Value} {next : Continuation .value}
      (joins : rules.joins operator) (below : Continues rules ground next) :
      Continues rules ground (.rightOperand line operator left next)
  | operand {line : Int} {operator : String} {next : Continuation .value}
      (signs : rules.signs operator) (below : Continues rules ground next) :
      Continues rules ground (.operand line operator next)
  | argument {line : Int} {callee : Callee} {finished : List Value} {rest : List Node}
      {scope : Handle} {next : Continuation .value} (calls : rules.Calls callee)
      (admits : ∀ value ∈ finished, rules.admits value)
      (evaluates : ∀ node ∈ rest, rules.evaluates scope node) (below : Continues rules ground next) :
      Continues rules ground (.argument line callee finished rest scope next)
  | declaring {name : String} {scope : Handle} {next : Continuation .completion}
      (reads : rules.reads scope) (binds : rules.binds scope) (below : Continues rules ground next) :
      Continues rules ground (.declaring name scope next)
  | returning {next : Continuation .completion} (below : Continues rules ground next) :
      Continues rules ground (.returning next)
  | branching {line : Int} {thenBranch : List Node} {elseBranch : Option (List Node)}
      {scope : Handle} {next : Continuation .completion} (reads : rules.reads scope)
      (thenEnters : rules.Enters thenBranch)
      (elseEnters : ∀ branch ∈ elseBranch, rules.Enters branch) (below : Continues rules ground next) :
      Continues rules ground (.branching line thenBranch elseBranch scope next)
  | testing {line : Int} {loop : Loop} {next : Continuation .completion} (loops : rules.Loops loop)
      (below : Continues rules ground next) : Continues rules ground (.testing line loop next)
  | stepping {loop : Loop} {next : Continuation .completion} (loops : rules.Loops loop)
      (below : Continues rules ground next) : Continues rules ground (.stepping loop next)
  | discarding {next : Continuation .completion} (below : Continues rules ground next) :
      Continues rules ground (.discarding next)
  | sequence {rest : List Node} {scope : Handle} {next : Continuation .completion}
      (executes : ∀ node ∈ rest, rules.executes scope node) (below : Continues rules ground next) :
      Continues rules ground (.sequence rest scope next)
  | leaving {scope : Handle} {next : Continuation .completion} (below : Continues rules ground next) :
      Continues rules ground (.leaving scope next)
  | starting {loop : Loop} {next : Continuation .completion} (loops : rules.Loops loop)
      (below : Continues rules ground next) : Continues rules ground (.starting loop next)
  | looping {loop : Loop} {next : Continuation .completion} (loops : rules.Loops loop)
      (below : Continues rules ground next) : Continues rules ground (.looping loop next)
  | calling {name : String} {scope : Handle} {callerFrame : Option Handle} {callerLine : Int}
      {next : Continuation .value} (below : Continues rules ground next) :
      Continues rules ground (.calling name scope callerFrame callerLine next)
  | program {rest : List Node} {root : Handle}
      (executes : ∀ node ∈ rest, rules.executes root node) :
      Continues rules ground (.program rest root)

/-- What is being done and what is left to do is allowed. -/
def Rules.Permits (rules : Rules) (ground : (awaited : Awaited) → Continuation awaited → Prop) :
    Control → Prop
  | .evaluating node scope next => rules.evaluates scope node ∧ rules.Continues ground next
  | .executing node scope next => rules.executes scope node ∧ rules.Continues ground next
  | .delivering value next => rules.admits value ∧ rules.Continues ground next
  | .completing completion next => rules.Completes completion ∧ rules.Continues ground next
  | .unwinding failure next => rules.Allows failure ∧ rules.Continues ground next
  | .halted failure => ∀ cause ∈ failure, rules.Allows cause

end Scriptlet
