import Scriptlet.Proofs.Grammar.Category

/-! # Why operators fail

An operator with a known sign fails for its operands alone, and one with an unknown sign for its sign.

Main definitions:

* `Cause.isOfOperands`: an operator has no result for its operands.
* `Operator.FailsFor`: if there is no result, it is for certain causes.

Main statements: `Operator.failsFor_binary` and `Operator.failsFor_unary` for known signs, and
`Operator.kind_of_binary`, `Operator.kind_of_unary` for all. -/

namespace Scriptlet

/-- Whether an error tells of operands that an operator has no result for. -/
def Cause.isOfOperands : Cause → Bool
  | complementOperand _ | signOperand .. | arithmeticOperands .. | orderOperands ..
  | equalityOperands .. | bitwiseOperands .. | divisionByZero | moduloByZero | shiftCount _ => true
  | _ => false

/-- Operands are of the wrong type, or integers without a result. -/
theorem Cause.kind_of_isOfOperands {cause : Cause} (operands : cause.isOfOperands = true) :
    cause.kind = .type ∨ cause.kind = .arithmetic := by
  cases cause with
  | complementOperand | signOperand | arithmeticOperands | orderOperands | equalityOperands
  | bitwiseOperands => exact Or.inl rfl
  | divisionByZero | moduloByZero | shiftCount => exact Or.inr rfl
  | _ => cases operands

namespace Operator

variable {α β : Type} {causes : Cause → Prop}

/-- If there is no result, it is for certain causes. -/
def FailsFor (causes : Cause → Prop) (result : Except Problem α) : Prop :=
  ∀ cause, result = .error (.error cause) → causes cause

/-- A value is no failure. -/
theorem failsFor_ok (value : α) : FailsFor causes (.ok value) := nofun

/-- A failure is for its cause. -/
theorem failsFor_fail {cause : Cause} (caused : causes cause) :
    FailsFor causes (fail cause : Except Problem α) := by
  rintro other ⟨⟩
  exact caused

/-- What is only wrapped fails as before. -/
theorem failsFor_map {result : Except Problem α} (wrap : α → β) (fails : FailsFor causes result) :
    FailsFor causes (wrap <$> result) := by
  cases result with
  | ok content => exact failsFor_ok _
  | error problem =>
    rintro cause ⟨⟩
    exact fails cause rfl

/-! ## Known signs -/

/-- Arithmetic on integers fails for zero alone. -/
theorem Arithmetic.failsFor_onIntegers (operation : Arithmetic) (left right : Int) :
    FailsFor (·.isOfOperands = true) (operation.onIntegers left right) := by
  cases operation with
  | add | subtract | multiply => exact failsFor_ok _
  | divide | modulo =>
    rw [Arithmetic.onIntegers]
    split
    · exact failsFor_ok _
    · exact failsFor_fail rfl

/-- An integer without a double is no error of its sign. -/
theorem failsFor_toFloat (integer : Int) :
    FailsFor (·.isOfOperands = true) (toFloat integer) := by
  rw [toFloat]
  split
  · exact failsFor_ok _
  · rintro cause ⟨⟩

/-- Arithmetic fails for its operands. -/
theorem Arithmetic.failsFor_apply (operation : Arithmetic) (operator : String)
    (left right : Value) : FailsFor (·.isOfOperands = true) (operation.apply operator left right) := by
  unfold Arithmetic.apply
  split
  · exact failsFor_map _ (operation.failsFor_onIntegers _ _)
  · exact failsFor_ok _
  · exact failsFor_map _ (failsFor_toFloat _)
  · exact failsFor_map _ (failsFor_toFloat _)
  · exact failsFor_fail rfl

/-- An operation on the bits of integers fails for a count alone. -/
theorem Bitwise.failsFor_onIntegers (operation : Bitwise) (left right : Int) :
    FailsFor (·.isOfOperands = true) (operation.onIntegers left right) := by
  cases operation with
  | and | or | xor => exact failsFor_ok _
  | shiftLeft | shiftRight =>
    rw [Bitwise.onIntegers]
    split
    · exact failsFor_ok _
    · exact failsFor_fail rfl

/-- An operation on bits fails for its operands. -/
theorem Bitwise.failsFor_apply (operation : Bitwise) (operator : String) (left right : Value) :
    FailsFor (·.isOfOperands = true) (operation.apply operator left right) := by
  unfold Bitwise.apply
  split
  · exact failsFor_map _ (operation.failsFor_onIntegers _ _)
  · exact failsFor_fail rfl

/-- Addition fails for its operands. -/
theorem failsFor_plus (left right : Value) :
    FailsFor (·.isOfOperands = true) (plus left right) := by
  unfold plus
  split
  · exact failsFor_ok _
  · exact Arithmetic.failsFor_apply _ _ _ _

/-- Equality fails for its operands. -/
theorem failsFor_equal (left right : Value) :
    FailsFor (·.isOfOperands = true) (equal left right) := by
  unfold equal
  split <;> first | exact failsFor_ok _ | exact failsFor_fail rfl

/-- An order fails for its operands. -/
theorem failsFor_relational (operator : String) (holds : Ordering → Bool) (left right : Value) :
    FailsFor (·.isOfOperands = true) (relational operator holds left right) := by
  refine failsFor_map (fun order => Value.ofBool (Option.any holds order)) ?_
  unfold order
  split <;> first | exact failsFor_ok _ | exact failsFor_fail rfl

/-- An operator between two values with a known sign fails for its operands alone. -/
theorem failsFor_binary {operator : String} (left right : Value) (sign : operator ∈ binarySigns) :
    FailsFor (·.isOfOperands = true) (binary operator left right) := by
  unfold binary
  split
  · exact failsFor_plus _ _
  iterate 4 exact Arithmetic.failsFor_apply _ _ _ _
  · exact failsFor_map Value.ofBool (failsFor_equal _ _)
  · exact failsFor_map (fun same => Value.ofBool (!same)) (failsFor_equal _ _)
  iterate 4 exact failsFor_relational _ _ _ _
  iterate 5 exact Bitwise.failsFor_apply _ _ _ _
  -- The signs above are all that there are.
  · simp_all [binarySigns]

/-- An operator in front of a value with a known sign fails for its operand alone. -/
theorem failsFor_unary {operator : String} (operand : Value) (sign : operator ∈ unarySigns) :
    FailsFor (·.isOfOperands = true) (unary operator operand) := by
  unfold unary
  split
  · exact failsFor_ok _
  · split
    · exact failsFor_ok _
    · exact failsFor_fail rfl
  · split
    · exact failsFor_ok _
    · exact failsFor_ok _
    · exact failsFor_fail rfl
  · split
    · exact failsFor_ok _
    · exact failsFor_fail rfl
  · simp_all [unarySigns]

/-! ## All signs -/

/-- A sign of no operator between operands fails for itself. -/
theorem binary_of_not_mem {operator : String} (left right : Value)
    (unknown : operator ∉ binarySigns) :
    binary operator left right = fail (.unknownBinary operator) := by
  simp only [binarySigns, List.mem_cons, List.not_mem_nil, or_false, not_or] at unknown
  unfold binary
  split
  case h_17 => rfl
  all_goals simp_all

/-- So does a sign of no operator in front. -/
theorem unary_of_not_mem {operator : String} (operand : Value) (unknown : operator ∉ unarySigns) :
    unary operator operand = fail (.unknownUnary operator) := by
  simp only [unarySigns, List.mem_cons, List.not_mem_nil, or_false, not_or] at unknown
  unfold unary
  split
  case h_5 => rfl
  all_goals simp_all

/-- An operator between two values fails because of types, or because an integer has no result. -/
theorem kind_of_binary {operator : String} {left right : Value} {cause : Cause}
    (failed : binary operator left right = .error (.error cause)) :
    cause.kind = .type ∨ cause.kind = .arithmetic := by
  by_cases sign : operator ∈ binarySigns
  · exact Cause.kind_of_isOfOperands (failsFor_binary left right sign cause failed)
  · rw [binary_of_not_mem left right sign] at failed
    cases failed
    exact Or.inl rfl

/-- An operator in front of a value fails because of its type. -/
theorem kind_of_unary {operator : String} {operand : Value} {cause : Cause}
    (failed : unary operator operand = .error (.error cause)) :
    cause.kind = .type ∨ cause.kind = .arithmetic := by
  by_cases sign : operator ∈ unarySigns
  · exact Cause.kind_of_isOfOperands (failsFor_unary operand sign cause failed)
  · rw [unary_of_not_mem operand sign] at failed
    cases failed
    exact Or.inl rfl

end Operator

end Scriptlet
