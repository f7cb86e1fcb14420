import Scriptlet.Proofs.Machine.Twin
import Scriptlet.Proofs.Scope.Detour

/-! # Machines with an extra scope

Of two machines, the second one has an extra scope in its store and releases no scope.  Programs
cannot tell the machines apart: functions differ in the scope of their declaration only, and no
operator looks at that.

Main definitions:

* `Detour.value`: a value, with the scope of its declaration moved.
* `Machine.Detours`: two machines are the same but for an extra scope.

Main statements: `Detour.binary_value`, `Detour.unary_value` for operators, and one statement of
agreement for each action. -/

namespace Scriptlet

namespace Detour

/-! ## Values -/

section

variable (detour : Detour)

/-- A function whose scope has been moved. -/
def closure (closure : Closure) : Closure :=
  { closure with scope := detour.handle closure.scope }

/-- A value whose scope has been moved, if it is a function. -/
def value : Value → Value
  | .function closure => .function (detour.closure closure)
  | value => value

/-- A value has been moved. -/
def Moved (value other : Value) : Prop :=
  other = detour.value value

/-- How a statement ends, with the scope of a result moved. -/
def completion : Completion → Completion
  | .returned value => .returned (detour.value value)
  | completion => completion

/-- A function that is being called, with its scope moved. -/
def callee : Callee → Callee
  | .builtin builtin => .builtin builtin
  | .declared closure => .declared (detour.closure closure)

variable {detour}

/-- Values print alike: a function shows its name only. -/
@[simp] theorem print_value (value : Value) : (detour.value value).print = value.print := by
  cases value <;> rfl

/-- Texts stay texts. -/
@[simp] theorem isText_value (value : Value) : (detour.value value).isText = value.isText := by
  cases value <;> rfl

/-- Values count as true alike. -/
@[simp] theorem isTruthy_value (value : Value) :
    (detour.value value).isTruthy = value.isTruthy := by
  cases value <;> rfl

/-- The scope of a function is moved with it. -/
@[simp] theorem scope?_value (value : Value) :
    (detour.value value).scope? = value.scope?.map detour.handle := by
  cases value <;> rfl

/-- A value that is no function has no scope to move. -/
theorem value_of_scope?_eq_none {value : Value} (plain : value.scope? = none) :
    detour.value value = value := by
  cases value with
  | function => cases plain
  | integer | float | text | undefined | builtin | null => rfl

/-- A function whose scope is older than the extra one stays where it is. -/
theorem value_of_lt {value : Value}
    (before : ∀ target, value.scope? = some target → target.index < detour.extra.index) :
    detour.value value = value := by
  cases value with
  | function closure =>
    obtain ⟨identity, name, parameters, body, scope⟩ := closure
    have same : detour.handle scope = scope := handle_of_lt (before scope rfl)
    rw [value, closure, same]
  | integer | float | text | undefined | builtin | null => rfl

/-! ## Operators -/

/-- An operator in front does not see where functions are. -/
theorem unary_value (operator : String) (operand : Value) :
    Operator.unary operator (detour.value operand) =
      (Operator.unary operator operand).map detour.value := by
  unfold Operator.unary
  split
  · rw [isTruthy_value]
    rfl
  all_goals cases operand <;> rfl

/-- Nor does arithmetic. -/
theorem arithmetic_value (operation : Operator.Arithmetic) (operator : String)
    (left right : Value) : operation.apply operator (detour.value left) (detour.value right) =
      operation.apply operator left right := by
  cases left <;> cases right <;> rfl

/-- Nor does equality. -/
theorem equal_value (left right : Value) :
    Operator.equal (detour.value left) (detour.value right) = Operator.equal left right := by
  cases left <;> cases right <;> rfl

/-- Nor does an order. -/
theorem order_value (operator : String) (left right : Value) :
    Operator.order operator (detour.value left) (detour.value right) =
      Operator.order operator left right := by
  cases left <;> cases right <;> rfl

/-- Nor do operations on bits. -/
theorem bitwise_value (operation : Operator.Bitwise) (operator : String) (left right : Value) :
    operation.apply operator (detour.value left) (detour.value right) =
      operation.apply operator left right := by
  cases left <;> cases right <;> rfl

/-- Operators with two operands do not look at the scopes of functions, and have no functions as
results. -/
theorem binary_value (operator : String) (left right : Value) :
    Operator.binary operator (detour.value left) (detour.value right) =
      (Operator.binary operator left right).map detour.value := by
  have same : Operator.binary operator (detour.value left) (detour.value right) =
      Operator.binary operator left right := by
    unfold Operator.binary
    simp only [Operator.plus, Operator.relational, isText_value, print_value, arithmetic_value,
      equal_value, order_value, bitwise_value]
  rw [same]
  cases result : Operator.binary operator left right with
  | ok value =>
    have plain := Operator.isPlain_binary operator left right value result
    exact congrArg Except.ok (value_of_scope?_eq_none plain).symm
  | error problem => rfl

end

end Detour

/-! ## Machines -/

/-- Two machines are the same but for an extra scope in the second one. -/
structure Machine.Detours (detour : Detour) (machine other : Machine) : Prop where
  sound : machine.store.Sound Value.scope?
  otherSound : other.store.Sound Value.scope?
  stores : Store.Detours detour detour.value machine.store other.store
  line_eq : other.line = machine.line
  depth_eq : other.callDepth = machine.callDepth
  frame_eq : other.frame = machine.frame.map detour.handle
  functions_eq : other.functions = machine.functions
  printed_eq : other.printed = machine.printed

/-- The stores of two machines change, and nothing else. -/
theorem Machine.Detours.withStores {detour : Detour} {machine other : Machine}
    (machines : machine.Detours detour other) {store otherStore : Store Value}
    (sound : store.Sound Value.scope?) (otherSound : otherStore.Sound Value.scope?)
    (stores : Store.Detours detour detour.value store otherStore) :
    Machine.Detours detour { machine with store } { other with store := otherStore } :=
  ⟨sound, otherSound, stores, machines.line_eq, machines.depth_eq, machines.frame_eq,
    machines.functions_eq, machines.printed_eq⟩

/-- What a moved value links to is live where the value links to a live scope. -/
theorem Machine.Detours.links {detour : Detour} {machine other : Machine}
    (machines : machine.Detours detour other) {value : Value}
    (links : ∀ target, value.scope? = some target → machine.store.IsLive target) :
    ∀ target, (detour.value value).scope? = some target → other.store.IsLive target := by
  intro target link
  rw [Detour.scope?_value, Option.map_eq_some_iff] at link
  obtain ⟨before, link, rfl⟩ := link
  exact machines.stores.isLive (links before link)

/-- Machines that are the same but for an extra scope are alike. -/
instance (detour : Detour) : Likeness (Machine.Detours detour) detour.handle detour.value where
  sound machines := machines.sound
  otherSound machines := machines.otherSound
  line_eq machines := machines.line_eq
  depth_eq machines := machines.depth_eq
  links machines links := machines.links links
  find?_eq {_ _ scope _ _} machines live search :=
    have views : detour.Views true scope (detour.handle scope) := .same scope
    machines.stores.find?_eq machines.sound machines.otherSound views live search
  withLine machines _ := { machines with line_eq := rfl }
  withTraced machines _ _ := { machines with }
  withCalls machines _ _ := { machines with depth_eq := rfl, frame_eq := rfl }
  withPins machines sound otherSound :=
    machines.withStores sound otherSound (machines.stores.withPins _ _)
  bind machines scope name value sound otherSound :=
    machines.withStores sound otherSound ((machines.stores.withPins _ _).bind
      machines.sound.tidy.withPins machines.otherSound.tidy.withPins scope name value)
  release machines orderly top :=
    { machines with
      sound := orderly.sound.release (orderly.childless top) (orderly.unlinked top)
      stores := machines.stores.release machines.sound (orderly.childless top) }

namespace Detour

open Scriptlet.Action

variable {β δ : Type} {detour : Detour} {machine other : Machine} {belongAfter : β → δ → Prop}

/-- What is noted does not matter, and built-in functions do not look at the scopes of functions. -/
theorem alike_callBuiltin (builtin : Builtin) (arguments : List Value) :
    Alike (Machine.Detours detour) detour.Moved (callBuiltin builtin arguments)
      (callBuiltin builtin (arguments.map detour.value)) := by
  intro machine other machines
  cases builtin with
  | print =>
    refine ⟨rfl, { machines with printed_eq := ?_ }⟩
    cases arguments with
    | nil => exact congrArg (List.cons _) machines.printed_eq
    | cons argument _ =>
      exact List.cons_eq_cons.mpr ⟨print_value argument, machines.printed_eq⟩
  | track | dump => exact ⟨rfl, { machines with }⟩
  | argc =>
    refine ⟨?_, { machines with }⟩
    rw [List.length_map]
    rfl

/-! ## Scopes and names -/

/-- A name has the same value, seen from scopes from which the same is seen. -/
theorem agree_lookup {assigns : Bool} {scope otherScope : Handle}
    (machines : machine.Detours detour other) (live : machine.store.IsLive scope)
    (views : detour.Views assigns scope otherScope) (name : String) :
    Agree (Machine.Detours detour) detour.Moved (lookup name scope machine)
      (lookup name otherScope other) := by
  obtain ⟨found, search, finds⟩ :=
    Store.exists_find?_eq_ok machines.sound.tidy machines.sound.rooted live name
  have otherSearch := machines.stores.find?_eq machines.sound machines.otherSound views live search
  have run : query (·.find? name scope) machine = .ok found machine := by rw [query, search]
  have otherRun : query (·.find? name otherScope) other = .ok (found.map detour.handle) other := by
    rw [query, otherSearch]
  refine agree_bind_of_eq_ok run otherRun ?_
  cases found with
  | none => exact alike_fail _ machine other machines
  | some holder =>
    have holderLive := (finds.spec machines.sound.tidy machines.sound.rooted live).1
    have otherRead : query (fun store => .ok (store.get? (detour.handle holder) name)) other =
        .ok ((machine.store.get? holder name).map detour.value) other := by
      rw [query, machines.stores.get?_eq holderLive]
    refine agree_bind_of_eq_ok rfl otherRead ?_
    cases machine.store.get? holder name with
    | none => exact alike_fail _ machine other machines
    | some value => exact ⟨rfl, machines⟩

/-- A scope is created in two machines that are the same but for an extra scope, and is used in the
same way. -/
theorem agree_bind_createChild {following : Handle → Action β} {otherFollowing : Handle → Action δ}
    {around otherAround : Handle} {name otherName : String}
    (machines : machine.Detours detour other) (live : machine.store.IsLive around)
    (views : detour.Views false around otherAround)
    (follows : ∀ after otherAfter, after.Detours detour otherAfter →
      after.store = (machine.store.createChild around (some name)).2 →
      Agree (Machine.Detours detour) belongAfter (following ⟨machine.store.scopes.size⟩ after)
        (otherFollowing (detour.handle ⟨machine.store.scopes.size⟩) otherAfter)) :
    Agree (Machine.Detours detour) belongAfter ((createChild around name >>= following) machine)
      ((createChild otherAround otherName >>= otherFollowing) other) := by
  have otherRun := createChild_eq otherAround otherName other
  rw [← machines.stores.handle_next] at otherRun
  refine agree_bind_of_eq_ok (createChild_eq around name machine) otherRun (follows _ _ ?_ rfl)
  exact machines.withStores (machines.sound.createChild live)
    (machines.otherSound.createChild (machines.stores.isLive_of_views views live))
    (machines.stores.createChild machines.sound machines.otherSound views live)

end Detour

end Scriptlet
