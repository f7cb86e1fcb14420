import Scriptlet.Proofs.Decimal.Nearest
import Scriptlet.Machine.Basic

/-! # Words stay words

The integers that a program computes are words, whatever the size of its literals.  An operator that
is given words has a result that is a word, or an error of the program; no integer that it meets is
past the largest double.

Main definitions:

* `Word.Fits`, `Value.Fits`: an integer, or the integer that a value is, is a word.
* `Failure.IsReported`: a failure is an error of a run, or the want of its report.
* `Operator.Settles`: an operator has a result that fits, or an error of a run.

Main statements: `Operator.settles_unary` and `Operator.settles_binary`. -/

namespace Scriptlet

/-! ## Words -/

/-- An integer is a word. -/
structure Word.Fits (integer : Int) : Prop where
  least : -2 ^ 63 ≤ integer
  greatest : integer < 2 ^ 63

namespace Word

variable {left right : Int}

/-- A bound of words is less than a power of ten with enough zeros. -/
theorem two_pow_lt_ten_pow {zeros : Nat} (enough : 63 < zeros) : 2 ^ 63 < 10 ^ zeros :=
  calc 2 ^ 63 ≤ 10 ^ 63 := Nat.pow_le_pow_left (by decide) 63
    _ < 10 ^ zeros := Nat.pow_lt_pow_right (by decide) enough

/-- A word has few enough digits to be written. -/
theorem Fits.isWritable {integer : Int} (fits : Fits integer) :
    Decimal.isWritable integer = true := by
  obtain ⟨least, greatest⟩ := fits
  have small : integer.natAbs ≤ 2 ^ 63 := by omega
  have enough : 63 < Decimal.digitLimit := by decide
  unfold Decimal.isWritable
  generalize Decimal.digitLimit = limit at enough ⊢
  exact decide_eq_true (small.trans_lt (two_pow_lt_ten_pow enough))

/-- A natural is a word if it is below the sign bit. -/
theorem fits_ofNat {natural : Nat} : Fits (.ofNat natural) ↔ natural < 2 ^ 63 := by
  constructor
  · rintro ⟨-, greatest⟩
    rw [Int.ofNat_eq_natCast] at greatest
    omega
  · intro small
    rw [Int.ofNat_eq_natCast]
    constructor <;> omega

/-- The complement of a natural is a word if the natural is below the sign bit. -/
theorem fits_negSucc {natural : Nat} : Fits (.negSucc natural) ↔ natural < 2 ^ 63 := by
  constructor
  · rintro ⟨least, -⟩
    omega
  · intro small
    constructor <;> omega

/-- Wrapping gives a word, whatever is wrapped. -/
theorem fits_wrap (integer : Int) : Fits (wrap integer) := by
  have lower := Int.le_bmod (x := integer) (m := 2 ^ 64) (by decide)
  have upper := Int.bmod_lt (x := integer) (m := 2 ^ 64) (by decide)
  constructor
  · simpa [wrap] using lower
  · simpa [wrap] using upper

/-- The complement of a word is a word. -/
theorem fits_complement (fits : Fits left) : Fits (~~~left) := by
  cases left with
  | ofNat left => exact fits_negSucc.mpr (fits_ofNat.mp fits)
  | negSucc left => exact fits_ofNat.mpr (fits_negSucc.mp fits)

/-- The bits that two words share are a word: the sign bit is that of both, and below it no bit is
set that was not. -/
theorem fits_bitAnd (fits : Fits left) (fits' : Fits right) : Fits (bitAnd left right) := by
  cases left with
  | ofNat left =>
    have small := fits_ofNat.mp fits
    cases right with
    | ofNat right => exact fits_ofNat.mpr (Nat.and_le_left.trans_lt small)
    | negSucc right => exact fits_ofNat.mpr ((Nat.sub_le _ _).trans_lt small)
  | negSucc left =>
    cases right with
    | ofNat right => exact fits_ofNat.mpr ((Nat.sub_le _ _).trans_lt (fits_ofNat.mp fits'))
    | negSucc right =>
      exact fits_negSucc.mpr (Nat.or_lt_two_pow (fits_negSucc.mp fits) (fits_negSucc.mp fits'))

/-- The bits of either of two words are a word. -/
theorem fits_bitOr (fits : Fits left) (fits' : Fits right) : Fits (bitOr left right) :=
  fits_complement (fits_bitAnd (fits_complement fits) (fits_complement fits'))

/-- The bits of exactly one of two words are a word. -/
theorem fits_bitXor (fits : Fits left) (fits' : Fits right) : Fits (bitXor left right) := by
  cases left with
  | ofNat left =>
    have small := fits_ofNat.mp fits
    cases right with
    | ofNat right => exact fits_ofNat.mpr (Nat.xor_lt_two_pow small (fits_ofNat.mp fits'))
    | negSucc right => exact fits_negSucc.mpr (Nat.xor_lt_two_pow small (fits_negSucc.mp fits'))
  | negSucc left =>
    have small := fits_negSucc.mp fits
    cases right with
    | ofNat right => exact fits_negSucc.mpr (Nat.xor_lt_two_pow small (fits_ofNat.mp fits'))
    | negSucc right => exact fits_ofNat.mpr (Nat.xor_lt_two_pow small (fits_negSucc.mp fits'))

/-- A word that is shifted to the right is a word: it only comes nearer to zero. -/
theorem fits_shiftRight (fits : Fits left) (count : Nat) : Fits (shiftRight left count) := by
  obtain ⟨least, greatest⟩ := fits
  have positive : (0 : Int) < 2 ^ count := by positivity
  rw [shiftRight, Int.shiftRight_eq_div_pow]
  constructor
  · rw [Nat.cast_pow, Nat.cast_ofNat, Int.le_ediv_iff_mul_le positive]
    nlinarith
  · rw [Nat.cast_pow, Nat.cast_ofNat, Int.ediv_lt_iff_lt_mul positive]
    nlinarith

end Word

/-! ## Values -/

/-- The integer that a value is, if it is one, is a word. -/
def Value.Fits : Value → Prop
  | .integer value => Word.Fits value
  | .float _ | .text _ | .undefined | .function _ | .builtin _ | .null => True

/-- A function holds no integer. -/
theorem Value.fits_function (closure : Closure) : (Value.function closure).Fits := trivial

/-- A truth value is zero or one. -/
theorem Value.fits_ofBool (condition : Bool) : (Value.ofBool condition).Fits := by
  cases condition <;> constructor <;> decide

/-! ## Errors of a run -/

/-- A cause is one of a run: the kinds of error are those of programs that have been accepted. -/
def Cause.IsRuntime (cause : Cause) : Prop :=
  cause.kind ∈ [.reference, .type, .argument, .controlFlow, .arithmetic, .range]

/-- Only the kind of a text that is no program is not one of a run. -/
theorem Cause.isRuntime_of_ne {cause : Cause} (other : cause.kind ≠ .grammar) :
    cause.IsRuntime := by
  unfold Cause.IsRuntime
  cases kind : cause.kind with
  | grammar => exact absurd kind other
  | reference | type | argument | controlFlow | arithmetic | range => simp

/-- A failure is an error of a run, with a report that can be written, or it is the want of one. -/
def Failure.IsReported : Failure → Prop
  | .error blamed => blamed.cause.IsRuntime ∧ blamed.isWritable = true
  | .unwritable => True
  | .fault _ | .tooLarge => False

/-- Stopping with an error of a run is reported, or comes to nothing for want of the report. -/
theorem Failure.isReported_ofError {error : Error} (runtime : error.cause.IsRuntime) :
    (Failure.ofError error).IsReported := by
  rw [ofError]
  split
  · exact ⟨runtime, by assumption⟩
  · exact trivial

namespace Operator

/-- An operator has a result that fits, or an error of a run that can be worded. -/
def Settles (result : Except Problem Value) : Prop :=
  match result with
  | .ok value => value.Fits
  | .error (.error cause) => cause.IsRuntime ∧ cause.isWritable = true
  | .error .tooLarge => False

variable {left right operand : Value}

/-- An integer that fits has a double next to it. -/
theorem exists_toFloat_eq {integer : Int} (fits : Word.Fits integer) :
    ∃ number, toFloat integer = .ok number := by
  obtain ⟨number, found⟩ := Decimal.exists_ofInteger?_eq fits.least fits.greatest
  exact ⟨number, by rw [toFloat, found]⟩

/-- An operator that fails with an error of a run settles. -/
theorem settles_fail {cause : Cause} (runtime : cause.kind ≠ .grammar)
    (writable : cause.isWritable = true) : Settles (fail cause) :=
  ⟨Cause.isRuntime_of_ne runtime, writable⟩

/-- An operator of one operand settles. -/
theorem settles_unary (operator : String) (fits : operand.Fits) :
    Settles (unary operator operand) := by
  unfold unary
  split
  · exact Value.fits_ofBool _
  · cases operand with
    | integer value => exact Word.fits_complement fits
    | float | text | undefined | function | builtin | null =>
      exact settles_fail nofun rfl
  · cases operand with
    | integer value => exact Word.fits_wrap _
    | float value => trivial
    | text | undefined | function | builtin | null =>
      exact settles_fail nofun rfl
  · split
    · exact fits
    · exact settles_fail nofun rfl
  · exact settles_fail nofun rfl

/-- Arithmetic on integers gives a word, or there is nothing to divide by. -/
theorem Arithmetic.settles_onIntegers (operation : Arithmetic) (left right : Int) :
    Settles (.integer <$> operation.onIntegers left right) := by
  cases operation with
  | add | subtract | multiply => exact Word.fits_wrap _
  | divide | modulo =>
    rw [Arithmetic.onIntegers]
    cases Word.divide? left right with
    | some quotient => exact Word.fits_wrap _
    | none => exact settles_fail nofun rfl

/-- Arithmetic settles: a word that meets a float has a double next to it. -/
theorem Arithmetic.settles_apply (operation : Arithmetic) (operator : String)
    (fits : left.Fits) (fits' : right.Fits) : Settles (operation.apply operator left right) := by
  unfold Arithmetic.apply
  split
  · exact operation.settles_onIntegers _ _
  · trivial
  · obtain ⟨number, found⟩ := exists_toFloat_eq fits
    rw [found]
    trivial
  · obtain ⟨number, found⟩ := exists_toFloat_eq fits'
    rw [found]
    trivial
  · exact settles_fail nofun rfl

/-- A comparison for equality settles. -/
theorem settles_equal (use : Bool → Bool) (left right : Value) :
    Settles (do return .ofBool (use (← equal left right))) := by
  unfold equal
  split
  case h_10 => exact settles_fail nofun rfl
  all_goals exact Value.fits_ofBool _

/-- A comparison by size settles. -/
theorem settles_relational (operator : String) (holds : Ordering → Bool) (left right : Value) :
    Settles (relational operator holds left right) := by
  unfold relational order
  split
  case h_6 => exact settles_fail nofun rfl
  all_goals exact Value.fits_ofBool _

/-- A bitwise operation settles. -/
theorem Bitwise.settles_apply (operation : Bitwise) (operator : String) (fits : left.Fits)
    (fits' : right.Fits) : Settles (operation.apply operator left right) := by
  unfold Bitwise.apply
  split
  · cases operation with
    | and => exact Word.fits_bitAnd fits fits'
    | or => exact Word.fits_bitOr fits fits'
    | xor => exact Word.fits_bitXor fits fits'
    -- The count of a shift that is refused is a word, so it can be told.
    | shiftLeft =>
      rw [Bitwise.onIntegers]
      split
      · exact Word.fits_wrap _
      · exact settles_fail nofun (Word.Fits.isWritable fits')
    | shiftRight =>
      rw [Bitwise.onIntegers]
      split
      · exact Word.fits_shiftRight fits _
      · exact settles_fail nofun (Word.Fits.isWritable fits')
  · exact settles_fail nofun rfl

/-- A sum settles, and so does a text that is put together. -/
theorem settles_plus (fits : left.Fits) (fits' : right.Fits) : Settles (plus left right) := by
  unfold plus
  split
  · trivial
  · exact Arithmetic.add.settles_apply "+" fits fits'

/-- An operator of two operands settles. -/
theorem settles_binary (operator : String) (fits : left.Fits) (fits' : right.Fits) :
    Settles (binary operator left right) := by
  unfold binary
  split
  case h_1 => exact settles_plus fits fits'
  case h_2 | h_3 | h_4 | h_5 => exact Arithmetic.settles_apply _ _ fits fits'
  case h_6 => exact settles_equal id left right
  case h_7 => exact settles_equal not left right
  case h_8 | h_9 | h_10 | h_11 => exact settles_relational _ _ left right
  case h_12 | h_13 | h_14 | h_15 | h_16 => exact Bitwise.settles_apply _ _ fits fits'
  case h_17 => exact settles_fail nofun rfl

end Operator

end Scriptlet
