import Scriptlet.Proofs.Machine.Fits
import Scriptlet.Proofs.Machine.Operation

/-! # How operators end

An operator between two values has no result for two reasons: its operands are of the wrong types, or
they are integers that it is not defined for.  Which of them it is, and else the type of the result,
is told by the sign and by the types of the operands.

Main definitions:

* `Operator.LacksResult`, `Operator.Mismatched`: the two reasons.
* `Operator.Joins`, `Operator.Widens`: the result is a text, or a double.
* `Operator.Typed`: the result is of the type that the sign and the operands tell.
* `Operator.EndsByTypes`: a result is missing for one of the reasons, and else it is typed.
* `Operator.Equates`: the laws of the two comparisons for equality.

Main statements: `Operator.binary_by_types`, from `Operator.endsByTypes_binary` and
`Operator.equates`. -/

namespace Scriptlet

/-! ## Types of values -/

namespace Value

/-- Whether a value is an integer. -/
def isInteger : Value → Bool
  | integer _ => true
  | _ => false

/-- Whether a value is a double. -/
def isFloat : Value → Bool
  | float _ => true
  | _ => false

/-- Whether a value is `undefined`. -/
def isUndefined : Value → Bool
  | undefined => true
  | _ => false

/-- Whether a value is a declared function. -/
def isFunction : Value → Bool
  | function _ => true
  | _ => false

/-- Two values are both of a kind. -/
def Both (kind : Value → Bool) (left right : Value) : Prop :=
  kind left = true ∧ kind right = true

instance (kind : Value → Bool) (left right : Value) : Decidable (Both kind left right) :=
  inferInstanceAs (Decidable (_ ∧ _))

/-- Two values have an order: they are two numbers or two texts. -/
def Comparable (left right : Value) : Prop :=
  Both isNumber left right ∨ Both isText left right

end Value

namespace Operator

open Value (Both Comparable)

/-! ## What the sign and the operands tell -/

/-- The signs of arithmetic. -/
def arithmeticSigns : List String := ["+", "-", "*", "/", "%"]

/-- The signs of comparisons for equality. -/
def equalitySigns : List String := ["==", "!="]

/-- The signs of comparisons by size. -/
def relationalSigns : List String := ["<", ">", "<=", ">="]

/-- The signs of operations on bits. -/
def bitwiseSigns : List String := ["&", "|", "^", "<<", ">>"]

/-- The operands are integers, and there is no quotient of them, or no shift. -/
inductive LacksResult (operator : String) : Value → Value → Prop
  | quotient (sign : operator ∈ ["/", "%"]) (dividend : Int) :
      LacksResult operator (.integer dividend) (.integer 0)
  | shift (sign : operator ∈ ["<<", ">>"]) (word : Int) {count : Int}
      (outside : ¬(0 ≤ count ∧ count ≤ 63)) : LacksResult operator (.integer word) (.integer count)

/-- The result is a text: the operands are joined. -/
def Joins (operator : String) (left right : Value) : Prop :=
  operator = "+" ∧ (left.isText = true ∨ right.isText = true)

/-- The result is a double: there is one among the operands. -/
def Widens (operator : String) (left right : Value) : Prop :=
  operator ∈ arithmeticSigns ∧ Both Value.isNumber left right ∧
    (left.isFloat = true ∨ right.isFloat = true)

/-- The operator does not exist, or its operands are of the wrong types. -/
inductive Mismatched (operator : String) (left right : Value) : Prop
  | unknown (sign : operator ∉ binarySigns)
  | arithmetic (sign : operator ∈ arithmeticSigns) (numbers : ¬Both Value.isNumber left right)
      (joins : ¬Joins operator left right)
  | relational (sign : operator ∈ relationalSigns) (comparable : ¬Comparable left right)
  | equality (sign : operator ∈ equalitySigns)
      (defined : left.isUndefined = false ∧ right.isUndefined = false)
      (comparable : ¬Comparable left right) (functions : ¬Both Value.isFunction left right)
  | bitwise (sign : operator ∈ bitwiseSigns) (integers : ¬Both Value.isInteger left right)

/-- The result is of the type that the sign and the operands tell. -/
structure Typed (operator : String) (left right value : Value) : Prop where
  text : value.isText = true ↔ Joins operator left right
  float : value.isFloat = true ↔ Widens operator left right
  integer : value.isInteger = true ↔ ¬Joins operator left right ∧ ¬Widens operator left right
  /-- A comparison gives one of the integers zero and one. -/
  comparison : operator ∈ equalitySigns ++ relationalSigns → value = .integer 0 ∨ value = .integer 1

/-- There is an error of a kind instead of a result. -/
def FailsWith (kind : Error.Kind) (result : Except Problem Value) : Prop :=
  ∃ cause, result = .error (.error cause) ∧ cause.kind = kind

/-- A result is missing for one of the two reasons, each with its kind of error, and else it is of the
type that the sign and the operands tell. -/
structure EndsByTypes (operator : String) (left right : Value) (result : Except Problem Value) :
    Prop where
  arithmetic : FailsWith .arithmetic result ↔ LacksResult operator left right
  type : FailsWith .type result ↔ Mismatched operator left right
  value : ¬LacksResult operator left right → ¬Mismatched operator left right →
    ∃ value, result = .ok value ∧ Typed operator left right value

/-- The comparisons for equality of two values are each other's negation, and their operands can be
swapped. -/
structure Equates (left right : Value) : Prop where
  negation : ∃ same : Except Problem Bool, binary "==" left right = Value.ofBool <$> same ∧
    binary "!=" left right = (fun holds => Value.ofBool (!holds)) <$> same
  swap : ∀ operator ∈ equalitySigns, ∀ value,
    binary operator left right = .ok value ↔ binary operator right left = .ok value

variable {operator : String} {left right value : Value}

/-! ## The reasons -/

/-- A result is lacking for an integer only: over zero, or by a count that does not fit. -/
theorem lacksResult_iff : LacksResult operator left right ↔
    left.isInteger = true ∧
      (operator ∈ ["/", "%"] ∧ right = .integer 0 ∨
        operator ∈ ["<<", ">>"] ∧ ∃ count, right = .integer count ∧ ¬(0 ≤ count ∧ count ≤ 63)) := by
  constructor
  · rintro (⟨sign, _⟩ | ⟨sign, _, outside⟩)
    · exact ⟨rfl, .inl ⟨sign, rfl⟩⟩
    · exact ⟨rfl, .inr ⟨sign, _, rfl, outside⟩⟩
  · rintro ⟨integer, h⟩
    cases left with
    | integer left =>
      obtain ⟨sign, rfl⟩ | ⟨sign, count, rfl, outside⟩ := h
      · exact .quotient sign left
      · exact .shift sign left outside
    | float | text | undefined | function | builtin | null => cases integer

/-- The reasons for a mismatch as alternatives. -/
theorem mismatched_iff : Mismatched operator left right ↔
    operator ∉ binarySigns ∨
    operator ∈ arithmeticSigns ∧ ¬Both Value.isNumber left right ∧ ¬Joins operator left right ∨
    operator ∈ relationalSigns ∧ ¬Comparable left right ∨
    operator ∈ equalitySigns ∧ (left.isUndefined = false ∧ right.isUndefined = false) ∧
      ¬Comparable left right ∧ ¬Both Value.isFunction left right ∨
    operator ∈ bitwiseSigns ∧ ¬Both Value.isInteger left right := by
  constructor
  · rintro (sign | ⟨sign, numbers, joins⟩ | ⟨sign, comparable⟩ |
      ⟨sign, defined, comparable, functions⟩ | ⟨sign, integers⟩)
    · exact .inl sign
    · exact .inr (.inl ⟨sign, numbers, joins⟩)
    · exact .inr (.inr (.inl ⟨sign, comparable⟩))
    · exact .inr (.inr (.inr (.inl ⟨sign, defined, comparable, functions⟩)))
    · exact .inr (.inr (.inr (.inr ⟨sign, integers⟩)))
  · rintro (sign | ⟨sign, numbers, joins⟩ | ⟨sign, comparable⟩ |
      ⟨sign, defined, comparable, functions⟩ | ⟨sign, integers⟩)
    · exact .unknown sign
    · exact .arithmetic sign numbers joins
    · exact .relational sign comparable
    · exact .equality sign defined comparable functions
    · exact .bitwise sign integers

/-! ## The type of a result -/

/-- Arithmetic on numbers is typed by the doubles among them. -/
theorem typed_arithmetic (sign : operator ∈ arithmeticSigns) (joins : ¬Joins operator left right)
    (numbers : Both Value.isNumber left right) (number : value.isNumber = true)
    (float : value.isFloat = (left.isFloat || right.isFloat)) :
    Typed operator left right value := by
  have widens : Widens operator left right ↔ value.isFloat = true := by
    rw [float, Bool.or_eq_true]
    exact ⟨fun widens => widens.2.2, fun either => ⟨sign, numbers, either⟩⟩
  have apart : operator ∉ equalitySigns ++ relationalSigns := by
    simp only [arithmeticSigns, List.mem_cons, List.not_mem_nil, or_false] at sign
    obtain rfl | rfl | rfl | rfl | rfl := sign <;> decide
  refine ⟨?_, widens.symm, ?_, fun sign' => absurd sign' apart⟩
  all_goals
    cases value with
    | integer | float => simp [Value.isText, Value.isInteger, Value.isFloat, joins, widens]
    | text | undefined | function | builtin | null => cases number

/-- Outside arithmetic, results are integers. -/
theorem typed_integer {integer : Int} (sign : operator ∉ arithmeticSigns)
    (comparison : operator ∈ equalitySigns ++ relationalSigns → integer = 0 ∨ integer = 1) :
    Typed operator left right (.integer integer) := by
  have joins : ¬Joins operator left right := by
    rintro ⟨rfl, -⟩
    exact sign (by decide)
  have widens : ¬Widens operator left right := fun widens => sign widens.1
  exact ⟨by simpa [Value.isText] using joins, by simpa [Value.isFloat] using widens,
    by simpa [Value.isInteger] using ⟨joins, widens⟩, fun sign' => by simpa using comparison sign'⟩

/-- What no arithmetic sign gives is an integer, if it tells whether something holds. -/
theorem typed_ofBool (sign : operator ∉ arithmeticSigns) (holds : Bool) :
    Typed operator left right (.ofBool holds) :=
  typed_integer sign fun _ => by cases holds <;> simp

/-! ## One family at a time -/

section

variable {cause : Cause}

/-- A failure is of the kind of its cause. -/
theorem failsWith_fail_iff {kind : Error.Kind} : FailsWith kind (fail cause) ↔ cause.kind = kind := by
  constructor
  · rintro ⟨_, ⟨⟩, same⟩
    exact same
  · exact fun same => ⟨cause, rfl, same⟩

/-- A result that is neither lacking nor mismatched and is typed ends as it should. -/
theorem endsByTypes_ok (defined : ¬LacksResult operator left right)
    (suits : ¬Mismatched operator left right) (typed : Typed operator left right value) :
    EndsByTypes operator left right (.ok value) where
  arithmetic := iff_of_false nofun defined
  type := iff_of_false nofun suits
  value _ _ := ⟨value, rfl, typed⟩

/-- An arithmetic error ends a lacking result as it should. -/
theorem endsByTypes_lacking (kind : cause.kind = .arithmetic) (lacks : LacksResult operator left right)
    (suits : ¬Mismatched operator left right) : EndsByTypes operator left right (fail cause) where
  arithmetic := iff_of_true (failsWith_fail_iff.mpr kind) lacks
  type := by
    rw [failsWith_fail_iff, kind]
    exact iff_of_false nofun suits
  value defined := absurd lacks defined

/-- A type error ends mismatched operands as it should. -/
theorem endsByTypes_mismatched (kind : cause.kind = .type) (defined : ¬LacksResult operator left right)
    (mismatched : Mismatched operator left right) :
    EndsByTypes operator left right (fail cause) where
  arithmetic := by
    rw [failsWith_fail_iff, kind]
    exact iff_of_false nofun defined
  type := iff_of_true (failsWith_fail_iff.mpr kind) mismatched
  value _ suits := absurd mismatched suits

end

/-! ### Arithmetic -/

/-- Arithmetic lacks a result where an integer is divided by the integer zero. -/
theorem lacksResult_arithmetic_iff (sign : operator ∈ arithmeticSigns) :
    LacksResult operator left right ↔
      operator ∈ ["/", "%"] ∧ left.isInteger = true ∧ right = .integer 0 := by
  simp only [arithmeticSigns, List.mem_cons, List.not_mem_nil, or_false] at sign
  obtain rfl | rfl | rfl | rfl | rfl := sign <;> simp [lacksResult_iff]

/-- Arithmetic suits numbers, and addition texts as well. -/
theorem mismatched_arithmetic_iff (sign : operator ∈ arithmeticSigns) :
    Mismatched operator left right ↔
      ¬Both Value.isNumber left right ∧ ¬Joins operator left right := by
  simp only [arithmeticSigns, List.mem_cons, List.not_mem_nil, or_false] at sign
  obtain rfl | rfl | rfl | rfl | rfl := sign <;>
    simp [mismatched_iff, binarySigns, arithmeticSigns, relationalSigns, equalitySigns, bitwiseSigns]

/-- Integers have all the results of arithmetic, except for the quotients by zero. -/
theorem Arithmetic.endsByTypes_onIntegers (operation : Arithmetic) (sign : operator ∈ arithmeticSigns)
    (divides : operator ∈ ["/", "%"] ↔ operation = .divide ∨ operation = .modulo) (left right : Int) :
    EndsByTypes operator (.integer left) (.integer right)
      (.integer <$> operation.onIntegers left right) := by
  have numbers : Both Value.isNumber (.integer left) (.integer right) := ⟨rfl, rfl⟩
  have joins : ¬Joins operator (.integer left) (.integer right) := by simp [Joins, Value.isText]
  have suits : ¬Mismatched operator (.integer left) (.integer right) :=
    fun mismatched => ((mismatched_arithmetic_iff sign).mp mismatched).1 numbers
  have typed (result : Int) : Typed operator (.integer left) (.integer right) (.integer result) :=
    typed_arithmetic sign joins numbers rfl rfl
  have lacks_iff : LacksResult operator (.integer left) (.integer right) ↔
      (operation = .divide ∨ operation = .modulo) ∧ right = 0 := by
    simp [lacksResult_arithmetic_iff sign, ← divides, Value.isInteger]
  cases operation with
  | add | subtract | multiply => exact endsByTypes_ok (by simp [lacks_iff]) suits (typed _)
  | divide | modulo =>
    rw [Arithmetic.onIntegers, Word.divide?]
    by_cases zero : right = 0
    · rw [if_pos zero]
      exact endsByTypes_lacking rfl (lacks_iff.mpr ⟨by simp, zero⟩) suits
    · rw [if_neg zero]
      exact endsByTypes_ok (fun lacks => zero (lacks_iff.mp lacks).2) suits (typed _)

/-- With a double among the operands, arithmetic always has a result, which is a double. -/
theorem endsByTypes_ok_float (sign : operator ∈ arithmeticSigns)
    (numbers : Both Value.isNumber left right) (float : left.isFloat = true ∨ right.isFloat = true)
    (number : Float) : EndsByTypes operator left right (.ok (.float number)) := by
  have texts : left.isText = false ∧ right.isText = false := by
    cases left <;> cases right <;> simp_all [Both, Value.isNumber, Value.isText]
  have joins : ¬Joins operator left right := by simp [Joins, texts]
  refine endsByTypes_ok ?_ ?_ (typed_arithmetic sign joins numbers rfl ?_)
  · rw [lacksResult_arithmetic_iff sign]
    rintro ⟨-, integer, rfl⟩
    cases left <;> simp_all [Value.isInteger, Value.isFloat]
  · exact fun mismatched => ((mismatched_arithmetic_iff sign).mp mismatched).1 numbers
  · rwa [Value.isFloat, eq_comm, Bool.or_eq_true]

/-- Every arithmetic operation ends as it should. -/
theorem Arithmetic.endsByTypes_apply (operation : Arithmetic) (sign : operator ∈ arithmeticSigns)
    (divides : operator ∈ ["/", "%"] ↔ operation = .divide ∨ operation = .modulo)
    (joins : ¬Joins operator left right) (fits : left.Fits) (fits' : right.Fits) :
    EndsByTypes operator left right (operation.apply operator left right) := by
  unfold Arithmetic.apply
  split
  case h_1 => exact operation.endsByTypes_onIntegers sign divides _ _
  case h_2 => exact endsByTypes_ok_float sign ⟨rfl, rfl⟩ (.inl rfl) _
  case h_3 =>
    obtain ⟨number, found⟩ := exists_toFloat_eq fits
    rw [found]
    exact endsByTypes_ok_float sign ⟨rfl, rfl⟩ (.inr rfl) _
  case h_4 =>
    obtain ⟨number, found⟩ := exists_toFloat_eq fits'
    rw [found]
    exact endsByTypes_ok_float sign ⟨rfl, rfl⟩ (.inl rfl) _
  case h_5 =>
    refine endsByTypes_mismatched rfl ?_ ?_
    · rw [lacksResult_arithmetic_iff sign]
      cases left <;> simp_all [Value.isInteger]
    · rw [mismatched_arithmetic_iff sign]
      refine ⟨?_, joins⟩
      cases left <;> cases right <;> simp_all [Both, Value.isNumber]

/-- Addition does too, of texts and of numbers. -/
theorem endsByTypes_plus (fits : left.Fits) (fits' : right.Fits) :
    EndsByTypes "+" left right (plus left right) := by
  have sign : "+" ∈ arithmeticSigns := by decide
  unfold plus
  split
  case isTrue text =>
    have joins : Joins "+" left right := ⟨rfl, by simpa using text⟩
    have widens : ¬Widens "+" left right := by
      rintro ⟨-, numbers, -⟩
      cases left <;> cases right <;> simp_all [Both, Value.isNumber, Value.isText]
    refine endsByTypes_ok ?_ ?_ ⟨?_, ?_, ?_, ?_⟩
    · simp [lacksResult_arithmetic_iff sign]
    · exact fun mismatched => ((mismatched_arithmetic_iff sign).mp mismatched).2 joins
    · simp [Value.isText, joins]
    · simp [Value.isFloat, widens]
    · simp [Value.isInteger, joins]
    · exact fun sign' => absurd sign' (by decide)
  case isFalse text =>
    have joins : ¬Joins "+" left right := fun joins => text (by simpa using joins.2)
    exact Arithmetic.add.endsByTypes_apply sign (by decide) joins fits fits'

/-! ### Comparison -/

/-- No comparison lacks a result. -/
theorem not_lacksResult_comparison (sign : operator ∈ equalitySigns ++ relationalSigns) :
    ¬LacksResult operator left right := by
  simp only [equalitySigns, relationalSigns, List.cons_append, List.nil_append, List.mem_cons,
    List.not_mem_nil, or_false] at sign
  obtain rfl | rfl | rfl | rfl | rfl | rfl := sign <;> simp [lacksResult_iff]

/-- The signs of comparisons and of bits are not arithmetic. -/
theorem not_mem_arithmeticSigns (sign : operator ∈ equalitySigns ++ relationalSigns ++ bitwiseSigns) :
    operator ∉ arithmeticSigns := by
  have apart : ∀ operator ∈ equalitySigns ++ relationalSigns ++ bitwiseSigns,
      operator ∉ arithmeticSigns := by decide
  exact apart operator sign

/-- Equality suits whatever can be compared, functions, and undefined values. -/
theorem mismatched_equality_iff (sign : operator ∈ equalitySigns) :
    Mismatched operator left right ↔ (left.isUndefined = false ∧ right.isUndefined = false) ∧
      ¬Comparable left right ∧ ¬Both Value.isFunction left right := by
  simp only [equalitySigns, List.mem_cons, List.not_mem_nil, or_false] at sign
  obtain rfl | rfl := sign <;>
    simp [mismatched_iff, binarySigns, arithmeticSigns, relationalSigns, equalitySigns, bitwiseSigns]

/-- An order suits what can be compared. -/
theorem mismatched_relational_iff (sign : operator ∈ relationalSigns) :
    Mismatched operator left right ↔ ¬Comparable left right := by
  simp only [relationalSigns, List.mem_cons, List.not_mem_nil, or_false] at sign
  obtain rfl | rfl | rfl | rfl := sign <;>
    simp [mismatched_iff, binarySigns, arithmeticSigns, relationalSigns, equalitySigns, bitwiseSigns]

/-- A comparison for equality, whatever becomes of its result. -/
theorem endsByTypes_equal (sign : operator ∈ equalitySigns) (use : Bool → Bool) :
    EndsByTypes operator left right (do return .ofBool (use (← equal left right))) := by
  have sign' : operator ∈ equalitySigns ++ relationalSigns := List.mem_append_left _ sign
  have other := not_mem_arithmeticSigns (List.mem_append_left bitwiseSigns sign')
  unfold equal
  split
  case h_10 =>
    refine endsByTypes_mismatched rfl (not_lacksResult_comparison sign') ?_
    rw [mismatched_equality_iff sign]
    cases left <;> cases right <;>
      simp_all [Comparable, Both, Value.isNumber, Value.isText, Value.isUndefined, Value.isFunction]
  all_goals
    refine endsByTypes_ok (not_lacksResult_comparison sign') ?_ (typed_ofBool other _)
    simp [mismatched_equality_iff sign, Comparable, Both, Value.isNumber, Value.isText,
      Value.isUndefined, Value.isFunction]

/-- Every order ends as it should. -/
theorem endsByTypes_relational (sign : operator ∈ relationalSigns) (holds : Ordering → Bool) :
    EndsByTypes operator left right (relational operator holds left right) := by
  have sign' : operator ∈ equalitySigns ++ relationalSigns := List.mem_append_right _ sign
  have other := not_mem_arithmeticSigns (List.mem_append_left bitwiseSigns sign')
  unfold relational order
  split
  case h_6 =>
    refine endsByTypes_mismatched rfl (not_lacksResult_comparison sign') ?_
    rw [mismatched_relational_iff sign]
    cases left <;> cases right <;> simp_all [Comparable, Both, Value.isNumber, Value.isText]
  all_goals
    refine endsByTypes_ok (not_lacksResult_comparison sign') ?_ (typed_ofBool other _)
    simp [mismatched_relational_iff sign, Comparable, Both, Value.isNumber, Value.isText]

/-! ### Bits -/

/-- A shift lacks a result for a count that does not fit. -/
theorem lacksResult_bitwise_iff (sign : operator ∈ bitwiseSigns) :
    LacksResult operator left right ↔ operator ∈ ["<<", ">>"] ∧ left.isInteger = true ∧
      ∃ count, right = .integer count ∧ ¬(0 ≤ count ∧ count ≤ 63) := by
  simp only [bitwiseSigns, List.mem_cons, List.not_mem_nil, or_false] at sign
  obtain rfl | rfl | rfl | rfl | rfl := sign <;> simp [lacksResult_iff]

/-- Operations on bits suit integers. -/
theorem mismatched_bitwise_iff (sign : operator ∈ bitwiseSigns) :
    Mismatched operator left right ↔ ¬Both Value.isInteger left right := by
  simp only [bitwiseSigns, List.mem_cons, List.not_mem_nil, or_false] at sign
  obtain rfl | rfl | rfl | rfl | rfl := sign <;>
    simp [mismatched_iff, binarySigns, arithmeticSigns, relationalSigns, equalitySigns, bitwiseSigns]

/-- A count of a shift is one of the places of a word. -/
theorem isShiftCount_iff {count : Int} :
    Word.isShiftCount count = true ↔ 0 ≤ count ∧ count ≤ 63 := by
  rw [Word.isShiftCount, Bool.and_eq_true, decide_eq_true_iff, decide_eq_true_iff]
  omega

/-- Integers have all the results of operations on bits, except for the shifts outside a word. -/
theorem Bitwise.endsByTypes_onIntegers (operation : Bitwise) (sign : operator ∈ bitwiseSigns)
    (shifts : operator ∈ ["<<", ">>"] ↔ operation = .shiftLeft ∨ operation = .shiftRight)
    (left right : Int) :
    EndsByTypes operator (.integer left) (.integer right)
      (.integer <$> operation.onIntegers left right) := by
  have suits : ¬Mismatched operator (.integer left) (.integer right) := by
    simp [mismatched_bitwise_iff sign, Both, Value.isInteger]
  have other := not_mem_arithmeticSigns (List.mem_append_right _ sign)
  have apart : operator ∉ equalitySigns ++ relationalSigns := by
    have apart : ∀ operator ∈ bitwiseSigns, operator ∉ equalitySigns ++ relationalSigns := by decide
    exact apart operator sign
  have typed (result : Int) : Typed operator (.integer left) (.integer right) (.integer result) :=
    typed_integer other fun sign' => absurd sign' apart
  have lacks_iff : LacksResult operator (.integer left) (.integer right) ↔
      (operation = .shiftLeft ∨ operation = .shiftRight) ∧ ¬Word.isShiftCount right = true := by
    simp [lacksResult_bitwise_iff sign, ← shifts, isShiftCount_iff, Value.isInteger]
  cases operation with
  | and | or | xor => exact endsByTypes_ok (by simp [lacks_iff]) suits (typed _)
  | shiftLeft | shiftRight =>
    rw [Bitwise.onIntegers]
    split
    case isTrue inside =>
      exact endsByTypes_ok (fun lacks => (lacks_iff.mp lacks).2 inside) suits (typed _)
    case isFalse outside =>
      exact endsByTypes_lacking rfl (lacks_iff.mpr ⟨by simp, outside⟩) suits

/-- Every operation on bits ends as it should. -/
theorem Bitwise.endsByTypes_apply (operation : Bitwise) (sign : operator ∈ bitwiseSigns)
    (shifts : operator ∈ ["<<", ">>"] ↔ operation = .shiftLeft ∨ operation = .shiftRight) :
    EndsByTypes operator left right (operation.apply operator left right) := by
  unfold Bitwise.apply
  split
  case h_1 => exact operation.endsByTypes_onIntegers sign shifts _ _
  case h_2 =>
    refine endsByTypes_mismatched rfl ?_ ?_
    · rw [lacksResult_bitwise_iff sign]
      cases left <;> simp_all [Value.isInteger]
    · rw [mismatched_bitwise_iff sign]
      cases left <;> cases right <;> simp_all [Both, Value.isInteger]

/-! ## All signs -/

/-- A sign of no operator is mismatched with all operands. -/
theorem endsByTypes_of_not_mem (unknown : operator ∉ binarySigns) :
    EndsByTypes operator left right (binary operator left right) := by
  rw [binary_of_not_mem left right unknown]
  refine endsByTypes_mismatched rfl ?_ (.unknown unknown)
  have known : ∀ operator ∈ ["/", "%"] ++ ["<<", ">>"], operator ∈ binarySigns := by decide
  rw [lacksResult_iff]
  rintro ⟨-, ⟨sign, -⟩ | ⟨sign, -⟩⟩
  · exact unknown (known operator (List.mem_append_left _ sign))
  · exact unknown (known operator (List.mem_append_right _ sign))

/-- The reasons and the type of the result, for each of the signs in turn. -/
theorem endsByTypes_binary (operator : String) (fits : left.Fits) (fits' : right.Fits) :
    EndsByTypes operator left right (binary operator left right) := by
  by_cases sign : operator ∈ binarySigns
  case neg => exact endsByTypes_of_not_mem sign
  simp only [binarySigns, List.mem_cons, List.not_mem_nil, or_false] at sign
  obtain rfl | rfl | rfl | rfl | rfl | rfl | rfl | rfl | rfl | rfl | rfl | rfl | rfl | rfl | rfl | rfl :=
    sign
  · exact endsByTypes_plus fits fits'
  iterate 4
    exact Arithmetic.endsByTypes_apply _ (by decide) (by decide) (by simp [Joins]) fits fits'
  · exact endsByTypes_equal (by decide) id
  · exact endsByTypes_equal (by decide) not
  iterate 4 exact endsByTypes_relational (by decide) _
  iterate 5 exact Bitwise.endsByTypes_apply _ (by decide) (by decide)

/-! ## Swapped operands -/

/-- Numbers in the other order compare the other way around. -/
theorem compareReadings_swap (left right : Decimal.Reading) :
    (Decimal.compareReadings left right).map Ordering.swap = Decimal.compareReadings right left := by
  cases left with
  | nan => cases right <;> rfl
  | infinity negative =>
    cases right with
    | nan => cases negative <;> rfl
    | infinity negative' => cases negative <;> cases negative' <;> rfl
    | finite => cases negative <;> rfl
  | finite negative significand exponent =>
    cases right with
    | nan => rfl
    | infinity negative' => cases negative' <;> rfl
    | finite negative' significand' exponent' =>
      rw [Decimal.compareReadings, Decimal.compareReadings, Option.map_some, min_comm exponent',
        ← Std.OrientedCmp.eq_swap]

/-- Readings that are equal are equal either way. -/
theorem compareReadings_eq_comm (left right : Decimal.Reading) :
    Decimal.compareReadings left right = some .eq ↔
      Decimal.compareReadings right left = some .eq := by
  rw [← compareReadings_swap left right]
  cases Decimal.compareReadings left right with
  | none => simp
  | some order => cases order <;> simp

/-- What a comparison for equality gives, it gives in the other order as well. -/
theorem equal_swap {same : Bool} (equal_eq : equal left right = .ok same) :
    equal right left = .ok same := by
  revert equal_eq
  fun_cases equal left right with
  | case1 left right => simp [equal, eq_comm]
  | case2 left right => simp [equal, BEq.comm]
  | case3 left right | case4 left right => simp [equal, compareReadings_eq_comm]
  | case5 left right => simp [equal, eq_comm]
  | case6 => exact id
  | case7 => cases right <;> simp_all [equal]
  | case8 => cases left <;> simp_all [equal]
  | case9 left right => simp [equal, eq_comm]
  | case10 => exact nofun

/-- Whatever becomes of a comparison for equality, the operands may be swapped. -/
theorem map_equal_swap (use : Bool → Value) (result_eq : use <$> equal left right = .ok value) :
    use <$> equal right left = .ok value := by
  cases equal_eq : equal left right with
  | ok same => rwa [equal_swap equal_eq, ← equal_eq]
  | error problem =>
    rw [equal_eq] at result_eq
    cases result_eq

/-- The two comparisons for equality obey their laws on all values. -/
theorem equates (left right : Value) : Equates left right where
  negation := ⟨equal left right, rfl, rfl⟩
  swap := by
    intro operator sign value
    simp only [equalitySigns, List.mem_cons, List.not_mem_nil, or_false] at sign
    obtain rfl | rfl := sign
    · exact ⟨map_equal_swap Value.ofBool, map_equal_swap Value.ofBool⟩
    · exact ⟨map_equal_swap fun same => .ofBool (!same), map_equal_swap fun same => .ofBool (!same)⟩

/-- An operator between two values has no result because its operands are of the wrong types, or
because they are integers without a quotient or a shift; else the result is of the type that its sign
and its operands tell.  The comparisons for equality are each other's negation, and symmetric. -/
theorem binary_by_types (operator : String) (fits : left.Fits) (fits' : right.Fits) :
    EndsByTypes operator left right (binary operator left right) ∧ Equates left right :=
  ⟨endsByTypes_binary operator fits fits', equates left right⟩

/-- A shift past the sign has no result, a text is no divisor, and a text can be added to an
integer. -/
theorem mixedOperands_by_types :
    FailsWith .arithmetic (binary "<<" (.integer 1) (.integer 64)) ∧
      FailsWith .type (binary "/" (.integer 1) (.text "0")) ∧
      ∃ value, binary "+" (.integer 1) (.text "0") = .ok value ∧ value.isText = true := by
  have fits : (Value.integer 1).Fits := ⟨by decide, by decide⟩
  have fits' : (Value.integer 64).Fits := ⟨by decide, by decide⟩
  have text : (Value.text "0").Fits := trivial
  have joins : Joins "+" (.integer 1) (.text "0") := ⟨rfl, .inr rfl⟩
  refine ⟨?_, ?_, ?_⟩
  · exact (binary_by_types "<<" fits fits').1.arithmetic.mpr (.shift (by decide) 1 (by decide))
  · have numbers : ¬Both Value.isNumber (.integer 1) (.text "0") := by decide
    exact (binary_by_types "/" fits text).1.type.mpr
      (.arithmetic (by decide) numbers (by simp [Joins]))
  · have defined : ¬LacksResult "+" (.integer 1) (.text "0") := nofun
    have suits : ¬Mismatched "+" (.integer 1) (.text "0") :=
      fun mismatched => ((mismatched_arithmetic_iff (by decide)).mp mismatched).2 joins
    obtain ⟨value, value_eq, typed⟩ := (binary_by_types "+" fits text).1.value defined suits
    exact ⟨value, value_eq, typed.text.mpr joins⟩

end Operator

end Scriptlet
