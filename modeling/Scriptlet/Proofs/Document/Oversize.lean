import Mathlib
import Scriptlet.Proofs.Document.WellFormed

/-! # Documents with integers past all doubles

A document is refused in words, unless it gives an integer past all doubles for a double.

Main definitions:

* `IsWorded`: a result that is no failure, or a failure in words.
* `Part.Overflows`: what is given for a part is past all doubles, or fails for such a reason.

Main statements:

* `loadNode_isWorded`: if no part overflows, the node is loaded or refused in words.
* `oversizes_of_load`: only a document with an integer past all doubles is refused for it. -/

namespace Scriptlet.Document

/-- A result that is no failure, or a failure in words. -/
def IsWorded {α : Type} (result : Except LoadFailure α) : Prop :=
  result ≠ .error .tooLarge

/-- What is given for a part is past all doubles, or fails for such a reason. -/
def Part.Overflows (part : Part) (given : Option (Except LoadFailure Item)) : Prop :=
  given = some (.error .tooLarge) ∨ part.shape = .float ∧
    ∃ integer, given = some (.ok (.integer integer)) ∧ Decimal.ofInteger? integer = none

/-- No part that a type declares overflows. -/
def AreSmall (parts : Parts) (declared : List Part) : Prop :=
  ∀ part ∈ declared, ¬part.Overflows (parts.lookup part.name)

/-! ## Results in words -/

section

variable {α β : Type} {result : Except LoadFailure α}

/-- Steps fail in words if each of them does. -/
theorem IsWorded.bind (worded : IsWorded result) {next : α → Except LoadFailure β}
    (each : ∀ value, IsWorded (next value)) : IsWorded (result >>= next) := by
  cases result with
  | error failure =>
    intro same
    obtain rfl := Except.error.inj same
    exact worded rfl
  | ok value => exact each value

/-- Success is no failure. -/
theorem isWorded_pure (value : α) : IsWorded (pure value) := nofun

/-- A missing part is refused in words. -/
theorem isWorded_lacking (type : String) (parts : List (String × Bool)) :
    IsWorded (lacking type parts : Except LoadFailure α) := nofun

end

section Parts

variable {α β γ : Type} {parts : Parts} {type name name' name'' : String} {absent? : Option Json}
  {expected : Expectation α} {expected' : Expectation β} {expected'' : Expectation γ}
  {shape shape' shape'' : Shape} {part : Part} {declared : List Part}

/-- If no part overflows, the first does not. -/
theorem AreSmall.head (small : AreSmall parts (part :: declared)) :
    ¬part.Overflows (parts.lookup part.name) :=
  small part List.mem_cons_self

/-- If no part overflows, none after the first does. -/
theorem AreSmall.tail (small : AreSmall parts (part :: declared)) : AreSmall parts declared :=
  fun part mem => small part (List.mem_cons_of_mem _ mem)

/-- An expectation that gives up on an integer past all doubles only where a double is declared. -/
def Expectation.Bounds (expected : Expectation α) (shape : Shape) : Prop :=
  ∀ item, expected.content item = .error .tooLarge → shape = .float ∧
    ∃ integer, item = .integer integer ∧ Decimal.ofInteger? integer = none

namespace Expectation

/-- What is only taken as it is refuses nothing for its size. -/
theorem bounds_ofPartial (content? : Item → Option α) :
    (Expectation.ofPartial name content?).Bounds shape := by
  intro item failed
  simp only [Expectation.ofPartial] at failed
  split at failed <;> cases failed

/-- A float refuses only an integer past all doubles for its size. -/
theorem bounds_float : float.Bounds .float := by
  intro item failed
  cases item with
  | integer value =>
    simp only [float] at failed
    split at failed
    next => cases failed
    next large => exact ⟨rfl, value, rfl, large⟩
  | null | boolean | float | text | list | node => cases failed

end Expectation

/-- A part that does not overflow is read or refused in words. -/
theorem get_isWorded (bounds : expected.Bounds shape)
    (small : ¬Part.Overflows ⟨name, shape, absent?⟩ (parts.lookup name)) :
    IsWorded (parts.get type name expected) := by
  intro failed
  rw [Parts.get] at failed
  split at failed
  next => cases failed
  next failure given =>
    obtain rfl := Except.error.inj failed
    exact small (.inl given)
  next item given =>
    split at failed
    next => cases failed
    next => cases failed
    next large =>
      obtain ⟨double, integer, rfl, none_eq⟩ := bounds item large
      exact small (.inr ⟨double, integer, given, none_eq⟩)

/-- A line that does not overflow is read or refused in words. -/
theorem line_isWorded (small : ¬Part.line.Overflows (parts.lookup "line")) :
    IsWorded (parts.line type) :=
  (get_isWorded (Expectation.bounds_ofPartial _) small).bind fun _ => isWorded_pure _

/-- A node with one part beside its line is loaded or refused in words. -/
theorem loadOne_isWorded {make : Int → α → Node} (bounds : expected.Bounds shape)
    (small : AreSmall parts [.line, ⟨name, shape, none⟩]) :
    IsWorded (loadOne parts type name expected make) := by
  refine (line_isWorded small.head).bind fun line => ?_
  refine (get_isWorded bounds small.tail.head).bind fun content => ?_
  split
  · exact isWorded_pure _
  · exact isWorded_lacking _ _

/-- So is one with two parts. -/
theorem loadTwo_isWorded {make : Int → α → β → Node} (bounds : expected.Bounds shape)
    (bounds' : expected'.Bounds shape')
    (small : AreSmall parts [.line, ⟨name, shape, none⟩, ⟨name', shape', none⟩]) :
    IsWorded (loadTwo parts type name expected name' expected' make) := by
  refine (line_isWorded small.head).bind fun line => ?_
  refine (get_isWorded bounds small.tail.head).bind fun content => ?_
  refine (get_isWorded bounds' small.tail.tail.head).bind fun content' => ?_
  split
  · exact isWorded_pure _
  · exact isWorded_lacking _ _

/-- So is one with three parts. -/
theorem loadThree_isWorded {make : Int → α → β → γ → Node} (bounds : expected.Bounds shape)
    (bounds' : expected'.Bounds shape') (bounds'' : expected''.Bounds shape'')
    (small : AreSmall parts [.line, ⟨name, shape, none⟩, ⟨name', shape', none⟩,
      ⟨name'', shape'', none⟩]) :
    IsWorded (loadThree parts type name expected name' expected' name'' expected'' make) := by
  refine (line_isWorded small.head).bind fun line => ?_
  refine (get_isWorded bounds small.tail.head).bind fun content => ?_
  refine (get_isWorded bounds' small.tail.tail.head).bind fun content' => ?_
  refine (get_isWorded bounds'' small.tail.tail.tail.head).bind fun content'' => ?_
  split
  · exact isWorded_pure _
  · exact isWorded_lacking _ _

end Parts

/-! ## Nodes and documents -/

section Nodes

variable {parts : Parts} {type : String}

open Expectation

/-- So is a declaration. -/
theorem loadDeclaration_isWorded (small : AreSmall parts
      [.line, ⟨"name", .text, none⟩, ⟨"initializer", .optional .node, some .null⟩]) :
    IsWorded (loadDeclaration parts type) := by
  refine (line_isWorded small.head).bind fun line => ?_
  refine (get_isWorded (bounds_ofPartial _) small.tail.head).bind fun name => ?_
  refine (get_isWorded (bounds_ofPartial _) small.tail.tail.head).bind fun initializer => ?_
  split
  · exact isWorded_pure _
  · exact isWorded_lacking _ _

/-- So is a `return`. -/
theorem loadReturning_isWorded
    (small : AreSmall parts [.line, ⟨"value", .optional .node, some .null⟩]) :
    IsWorded (loadReturning parts type) := by
  refine (line_isWorded small.head).bind fun line => ?_
  exact (get_isWorded (bounds_ofPartial _) small.tail.head).bind fun value => isWorded_pure _

/-- So is a choice. -/
theorem loadConditional_isWorded (small : AreSmall parts
      [.line, ⟨"condition", .node, none⟩, ⟨"then_branch", .list .node, none⟩,
        ⟨"else_branch", .optional (.list .node), some .null⟩]) :
    IsWorded (loadConditional parts type) := by
  refine (line_isWorded small.head).bind fun line => ?_
  refine (get_isWorded (bounds_ofPartial _) small.tail.head).bind fun condition => ?_
  refine (get_isWorded (bounds_ofPartial _) small.tail.tail.head).bind fun thenBranch => ?_
  refine (get_isWorded (bounds_ofPartial _) small.tail.tail.tail.head).bind fun elseBranch => ?_
  split
  · exact isWorded_pure _
  · exact isWorded_lacking _ _

/-- So is a loop with a heading. -/
theorem loadForLoop_isWorded (small : AreSmall parts
      [.line, ⟨"init", .optional .node, none⟩, ⟨"condition", .optional .node, none⟩,
        ⟨"step", .optional .node, none⟩, ⟨"body", .list .node, none⟩]) :
    IsWorded (loadForLoop parts type) := by
  refine (line_isWorded small.head).bind fun line => ?_
  refine (get_isWorded (bounds_ofPartial _) small.tail.head).bind fun start => ?_
  refine (get_isWorded (bounds_ofPartial _) small.tail.tail.head).bind fun condition => ?_
  refine (get_isWorded (bounds_ofPartial _) small.tail.tail.tail.head).bind fun step => ?_
  refine (get_isWorded (bounds_ofPartial _) small.tail.tail.tail.tail.head).bind fun body => ?_
  split
  · exact isWorded_pure _
  · exact isWorded_lacking _ _

/-- If no part overflows, a node is loaded or refused in words. -/
theorem loadNode_isWorded
    (small : ∀ declared, declared? type = some declared → AreSmall parts declared) :
    IsWorded (loadNode type parts) := by
  unfold loadNode
  split
  case h_1 | h_2 | h_4 | h_5 | h_18 => exact loadOne_isWorded (bounds_ofPartial _) (small _ rfl)
  case h_3 => exact loadOne_isWorded bounds_float (small _ rfl)
  case h_7 | h_8 | h_15 | h_16 =>
    exact loadTwo_isWorded (bounds_ofPartial _) (bounds_ofPartial _) (small _ rfl)
  case h_6 | h_9 =>
    exact loadThree_isWorded (bounds_ofPartial _) (bounds_ofPartial _) (bounds_ofPartial _)
      (small _ rfl)
  case h_10 => exact loadDeclaration_isWorded (small _ rfl)
  case h_11 => exact loadReturning_isWorded (small _ rfl)
  case h_12 | h_13 =>
    exact (line_isWorded (small _ rfl).head).bind fun _ => isWorded_pure _
  case h_14 => exact loadConditional_isWorded (small _ rfl)
  case h_17 => exact loadForLoop_isWorded (small _ rfl)
  case h_19 => nofun

end Nodes

/-- A type that is missing or no text is refused in words. -/
theorem typeName_isWorded (entries : List (String × Json)) : IsWorded (typeName entries) := by
  rw [typeName]
  intro failed
  split at failed <;> cases failed

/-- Items are loaded or refused in words if each of them is. -/
theorem loadItems_isWorded {jsons : List Json} (each : ∀ json ∈ jsons, IsWorded (load json)) :
    IsWorded (loadItems jsons) := by
  induction jsons with
  | nil => nofun
  | cons json jsons ih =>
    obtain ⟨first, later⟩ := List.forall_mem_cons.mp each
    exact first.bind fun item => (ih later).bind fun items => isWorded_pure _

/-- A document without an integer past all doubles for a double is loaded or refused in words. -/
theorem load_isWorded {json : Json} (small : ¬Oversizes json) : IsWorded (load json) := by
  match json with
  | .null | .boolean _ | .integer _ | .float _ | .string _ => nofun
  | .array jsons =>
    have all : ∀ json ∈ jsons, IsWorded (load json) := by
      intro json mem
      have := List.sizeOf_lt_of_mem mem
      exact load_isWorded fun oversizes => small (.array mem oversizes)
    exact (loadItems_isWorded all).bind fun items => isWorded_pure _
  | .object entries =>
    rw [load]
    cases named : typeName entries with
    | error failure =>
      rintro ⟨⟩
      exact typeName_isWorded entries named
    | ok name =>
      have named := typeName_eq_ok named
      -- A part that overflowed would be one that the document gives too large.
      have parts (declared : List Part) (declared_eq : declared? name = some declared) :
          AreSmall (loadParts entries) declared := by
        rintro part mem (failed | ⟨double, integer, loaded, none_eq⟩)
        · rw [lookup_loadParts, Option.map_eq_some_iff] at failed
          obtain ⟨json, given, failed⟩ := failed
          have := sizeOf_lt_of_lookup given
          exact load_isWorded (fun oversizes => small (.object named declared_eq mem given oversizes))
            failed
        · rw [lookup_loadParts, Option.map_eq_some_iff] at loaded
          obtain ⟨json, given, loaded⟩ := loaded
          obtain rfl := eq_of_load_integer loaded
          exact small (.here named declared_eq mem double given
            (Decimal.ofInteger?_eq_none_iff.mp none_eq))
      exact (loadNode_isWorded parts).bind fun node => isWorded_pure _
termination_by sizeOf json

/-- Only a document with an integer past all doubles for a double is refused for it. -/
theorem oversizes_of_load {json : Json} (failed : load json = .error .tooLarge) : Oversizes json :=
  not_not.mp fun small => load_isWorded small failed

end Scriptlet.Document
