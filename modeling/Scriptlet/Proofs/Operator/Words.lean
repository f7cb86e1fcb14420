import Mathlib
import Scriptlet.Proofs.Machine.Fits

/-! # Operators on words

The integer operators of a program are the operations of signed 64-bit words in two's complement,
although they compute with integers of any size and wrap only some of their results: where an operator
does not wrap, words have a result that is a word by itself.

Main definitions:

* `Word.bits`: the bits of an integer, as a word in two's complement.
* `Operator.ActsOnBits`: what the operators do to two integers is said by their bits.

Main statements:

* `Word.bits_bitAnd`, `Word.bits_bitOr`, `Word.bits_bitXor`: the bits of the bitwise operations on
  integers of any size.
* `Operator.acts_on_words`: the operators on words, with the wrapping and the division that they
  rest on. -/

namespace Scriptlet

/-! ## Bits of integers -/

namespace Word

variable {left right integer : ℤ}

/-- The bits of an integer, as a word in two's complement. -/
def bits (integer : ℤ) : BitVec 64 :=
  BitVec.ofInt 64 integer

/-- Wrapping reads the bits of an integer as a word. -/
theorem toInt_bits (integer : ℤ) : (bits integer).toInt = wrap integer :=
  BitVec.toInt_ofInt integer

/-- A word is its own bits. -/
theorem toInt_bits_of_fits (fits : Fits integer) : (bits integer).toInt = integer :=
  BitVec.toInt_ofInt_eq_self (by decide) fits.least fits.greatest

/-- A word with given bits is what the bits read as. -/
theorem eq_toInt {word : BitVec 64} (fits : Fits integer) (bits_eq : bits integer = word) :
    integer = word.toInt := by
  rw [← bits_eq, toInt_bits_of_fits fits]

/-- The bits of a natural number are its binary digits. -/
theorem bits_ofNat (natural : ℕ) : bits (.ofNat natural) = BitVec.ofNat 64 natural :=
  BitVec.ofInt_natCast ..

/-- Those of a negative integer are the complement of the digits. -/
theorem bits_negSucc (natural : ℕ) : bits (.negSucc natural) = ~~~BitVec.ofNat 64 natural :=
  BitVec.ofInt_negSucc_eq_not_ofNat

/-- A difference is computed on the bits. -/
theorem bits_sub (left right : ℤ) : bits (left - right) = bits left - bits right := by
  rw [Int.sub_eq_add_neg, BitVec.sub_eq_add_neg, bits, BitVec.ofInt_add, BitVec.ofInt_neg]
  rfl

/-- A complement is taken bit by bit. -/
theorem bits_complement (integer : ℤ) : bits (~~~integer) = ~~~bits integer := by
  cases integer with
  | ofNat natural => rw [bits_ofNat, ← bits_negSucc]; rfl
  | negSucc natural => rw [bits_negSucc, BitVec.not_not, ← bits_ofNat]; rfl

/-- The bits of one word that are not in another are left when those in both are taken away. -/
theorem and_not_eq_sub (left right : BitVec 64) : left &&& ~~~right = left - (left &&& right) := by
  have apart : (left &&& ~~~right) &&& (left &&& right) = 0#64 := by
    ext position
    cases same : right[position] <;> simp [same]
  have joined : (left &&& ~~~right) ||| (left &&& right) = left := by
    rw [← BitVec.and_or_distrib_left, BitVec.not_or_self, BitVec.and_allOnes]
  symm
  rw [BitVec.sub_eq_iff_eq_add, BitVec.add_eq_or_of_and_eq_zero _ _ apart, joined]

/-- Taking away the bits that two numbers share leaves those of the first alone. -/
theorem bits_ofNat_sub_and (left right : ℕ) :
    bits (.ofNat (left - (left &&& right))) = BitVec.ofNat 64 left &&& ~~~BitVec.ofNat 64 right := by
  have below : left &&& right ≤ left := Nat.and_le_left
  have cast : (Int.ofNat (left - (left &&& right)) : ℤ) =
      Int.ofNat left - Int.ofNat (left &&& right) := by
    simp only [Int.ofNat_eq_natCast]
    omega
  rw [cast, bits_sub, bits_ofNat, bits_ofNat, BitVec.ofNat_and, and_not_eq_sub]

/-- The conjunction of integers of any size is that of their bits. -/
theorem bits_bitAnd (left right : ℤ) : bits (bitAnd left right) = bits left &&& bits right := by
  cases left with
  | ofNat left =>
    cases right with
    | ofNat right => rw [bitAnd, bits_ofNat, bits_ofNat, bits_ofNat, BitVec.ofNat_and]
    | negSucc right => rw [bitAnd, bits_ofNat_sub_and, bits_ofNat, bits_negSucc]
  | negSucc left =>
    cases right with
    | ofNat right => rw [bitAnd, bits_ofNat_sub_and, bits_ofNat, bits_negSucc, BitVec.and_comm]
    | negSucc right =>
      rw [bitAnd, bits_negSucc, bits_negSucc, bits_negSucc, BitVec.ofNat_or, BitVec.not_or]

/-- The disjunction of integers of any size is that of their bits. -/
theorem bits_bitOr (left right : ℤ) : bits (bitOr left right) = bits left ||| bits right := by
  rw [bitOr, bits_complement, bits_bitAnd, bits_complement, bits_complement, BitVec.not_and,
    BitVec.not_not, BitVec.not_not]

/-- The exclusive disjunction of integers of any size is that of their bits. -/
theorem bits_bitXor (left right : ℤ) : bits (bitXor left right) = bits left ^^^ bits right := by
  cases left with
  | ofNat left =>
    cases right with
    | ofNat right => rw [bitXor, bits_ofNat, bits_ofNat, bits_ofNat, BitVec.ofNat_xor]
    | negSucc right =>
      rw [bitXor, bits_ofNat, bits_negSucc, bits_negSucc, BitVec.ofNat_xor, BitVec.not_xor_right]
  | negSucc left =>
    cases right with
    | ofNat right =>
      rw [bitXor, bits_ofNat, bits_negSucc, bits_negSucc, BitVec.ofNat_xor, BitVec.not_xor_left]
    | negSucc right =>
      rw [bitXor, bits_ofNat, bits_negSucc, bits_negSucc, BitVec.ofNat_xor, ← BitVec.not_xor_left,
        ← BitVec.not_xor_right, BitVec.not_not]

/-- A shift to the left moves the bits. -/
theorem bits_shiftLeft (integer : ℤ) (count : ℕ) :
    bits (integer <<< count) = bits integer <<< count := by
  have power : BitVec.ofInt 64 (2 ^ count) = BitVec.twoPow 64 count := by
    rw [← BitVec.toNat_inj, BitVec.toNat_twoPow, BitVec.toNat_ofInt]
    norm_cast
  rw [bits, Int.shiftLeft_eq, BitVec.ofInt_mul, power, BitVec.shiftLeft_eq_mul_twoPow]
  rfl

/-! ## Wrapping and division -/

/-- A word that is congruent to an integer is the one that the integer is wrapped to. -/
theorem eq_wrap {other : ℤ} (fits : Fits other) (congruent : other ≡ integer [ZMOD 2 ^ 64]) :
    other = wrap integer := by
  have same : other.bmod (2 ^ 64) = integer.bmod (2 ^ 64) := by
    rw [← Int.emod_bmod other, ← Int.emod_bmod integer]
    exact congrArg (Int.bmod · (2 ^ 64)) congruent
  rw [← toInt_bits_of_fits fits, toInt_bits]
  exact same

/-- Wrapping changes an integer by a multiple of the number of words only. -/
theorem wrap_modEq (integer : ℤ) : wrap integer ≡ integer [ZMOD 2 ^ 64] := by
  have same := Int.bmod_emod (x := integer) (m := 2 ^ 64)
  exact_mod_cast same

/-- Division by anything but zero has a quotient. -/
theorem divide?_eq_some {dividend divisor : ℤ} (nonzero : divisor ≠ 0) :
    divide? dividend divisor = some (dividend.tdiv divisor) :=
  if_neg nonzero

/-- An integer is a rational rounded toward zero. -/
structure RoundsTowardZero (ratio : ℚ) (integer : ℤ) : Prop where
  floor : 0 ≤ ratio → integer = ⌊ratio⌋
  ceil : ratio ≤ 0 → integer = ⌈ratio⌉

/-- What a quotient rounded toward zero leaves has the sign of the dividend, if it is not zero. -/
theorem sign_tmod_eq {dividend divisor : ℤ} (left : dividend.tmod divisor ≠ 0) :
    (dividend.tmod divisor).sign = dividend.sign := by
  rw [Int.sign_tmod, if_neg (mt Int.tmod_eq_zero_of_dvd left)]

/-- What a quotient rounded toward zero leaves is smaller than the divisor. -/
theorem abs_tmod_lt (dividend : ℤ) {divisor : ℤ} (nonzero : divisor ≠ 0) :
    |dividend.tmod divisor| < |divisor| := by
  have smaller := Nat.mod_lt dividend.natAbs (Int.natAbs_pos.mpr nonzero)
  rw [← Int.natAbs_tmod] at smaller
  rw [Int.abs_eq_natAbs, Int.abs_eq_natAbs]
  exact_mod_cast smaller

/-- What a quotient rounded toward zero leaves is on the side of the dividend. -/
theorem tmod_mul_pos {dividend divisor : ℤ} (left : dividend.tmod divisor ≠ 0) :
    0 < dividend.tmod divisor * dividend := by
  rw [← Int.sign_eq_one_iff_pos, Int.sign_mul, sign_tmod_eq left]
  have nonzero : dividend ≠ 0 := by
    rintro rfl
    exact left (Int.zero_tmod _)
  rw [← Int.sign_mul, Int.sign_eq_one_iff_pos]
  exact mul_self_pos.mpr nonzero

/-- Of the two integers around a quotient, the one nearer to zero is given. -/
theorem roundsTowardZero_tdiv (dividend : ℤ) {divisor : ℤ} (nonzero : divisor ≠ 0) :
    RoundsTowardZero (dividend / divisor : ℚ) (dividend.tdiv divisor) := by
  have nonzero' : (divisor : ℚ) ≠ 0 := by exact_mod_cast nonzero
  set ratio := (dividend / divisor : ℚ) with ratio_eq
  set fraction := (dividend.tmod divisor / divisor : ℚ) with fraction_eq
  have split : ratio = dividend.tdiv divisor + fraction := by
    rw [ratio_eq, fraction_eq]
    field_simp
    exact_mod_cast (Int.mul_tdiv_add_tmod dividend divisor).symm
  have small : |fraction| < 1 := by
    rw [fraction_eq, abs_div, div_lt_one (abs_pos.mpr nonzero')]
    exact_mod_cast abs_tmod_lt dividend nonzero
  obtain ⟨above, below⟩ := abs_lt.mp small
  -- The fraction is on the side of the ratio, so that leaving it out goes toward zero.
  have side : fraction = 0 ∨ 0 < fraction * ratio := by
    by_cases zero : dividend.tmod divisor = 0
    · exact .inl (by rw [fraction_eq, zero, Int.cast_zero, zero_div])
    · right
      rw [fraction_eq, ratio_eq, div_mul_div_comm]
      exact div_pos (by exact_mod_cast tmod_mul_pos zero) (mul_self_pos.mpr nonzero')
  constructor
  · intro nonneg
    have nonneg' : 0 ≤ fraction := by
      obtain zero | positive := side
      · exact zero.ge
      · exact (pos_of_mul_pos_left positive nonneg).le
    symm
    rw [Int.floor_eq_iff]
    constructor <;> linarith
  · intro nonpos
    have nonpos' : fraction ≤ 0 := by
      obtain zero | positive := side
      · exact zero.le
      · exact (neg_of_mul_pos_left positive nonpos).le
    symm
    rw [Int.ceil_eq_iff]
    constructor <;> linarith

end Word

/-! ## Operators -/

namespace Operator

open Word

/-- The operators between two words, and those in front of the first one, act on their bits. -/
structure ActsOnBits (left right : ℤ) : Prop where
  /-- The bits of a word read as the word. -/
  reads : (bits left).toInt = left ∧ (bits right).toInt = right
  sum : binary "+" (.integer left) (.integer right) = .ok (.integer (bits left + bits right).toInt)
  difference :
    binary "-" (.integer left) (.integer right) = .ok (.integer (bits left - bits right).toInt)
  product :
    binary "*" (.integer left) (.integer right) = .ok (.integer (bits left * bits right).toInt)
  quotient : right ≠ 0 → binary "/" (.integer left) (.integer right) =
    .ok (.integer ((bits left).sdiv (bits right)).toInt)
  remainder : right ≠ 0 → binary "%" (.integer left) (.integer right) =
    .ok (.integer ((bits left).srem (bits right)).toInt)
  /-- Quotient and remainder make up the dividend, and the remainder is zero, or has the sign of the
  dividend; it is smaller than the divisor. -/
  division : right ≠ 0 → ∃ quotient rest,
    binary "/" (.integer left) (.integer right) = .ok (.integer quotient) ∧
    binary "%" (.integer left) (.integer right) = .ok (.integer rest) ∧
    left ≡ quotient * right + rest [ZMOD 2 ^ 64] ∧ (rest = 0 ∨ rest.sign = left.sign) ∧
    |rest| < |right|
  /-- The only quotient that is no word wraps to the least word. -/
  least : left = -2 ^ 63 → right = -1 →
    binary "/" (.integer left) (.integer right) = .ok (.integer (-2 ^ 63)) ∧
    binary "%" (.integer left) (.integer right) = .ok (.integer 0)
  conjunction :
    binary "&" (.integer left) (.integer right) = .ok (.integer (bits left &&& bits right).toInt)
  disjunction :
    binary "|" (.integer left) (.integer right) = .ok (.integer (bits left ||| bits right).toInt)
  exclusion :
    binary "^" (.integer left) (.integer right) = .ok (.integer (bits left ^^^ bits right).toInt)
  shiftLeft : 0 ≤ right → right ≤ 63 → binary "<<" (.integer left) (.integer right) =
    .ok (.integer (bits left <<< right.toNat).toInt)
  shiftRight : 0 ≤ right → right ≤ 63 → binary ">>" (.integer left) (.integer right) =
    .ok (.integer ((bits left).sshiftRight right.toNat).toInt)
  less : binary "<" (.integer left) (.integer right) =
    .ok (.integer (if (bits left).slt (bits right) then 1 else 0))
  lessOrEqual : binary "<=" (.integer left) (.integer right) =
    .ok (.integer (if (bits left).sle (bits right) then 1 else 0))
  greater : binary ">" (.integer left) (.integer right) =
    .ok (.integer (if (bits right).slt (bits left) then 1 else 0))
  greaterOrEqual : binary ">=" (.integer left) (.integer right) =
    .ok (.integer (if (bits right).sle (bits left) then 1 else 0))
  equal : binary "==" (.integer left) (.integer right) =
    .ok (.integer (if bits left = bits right then 1 else 0))
  unequal : binary "!=" (.integer left) (.integer right) =
    .ok (.integer (if bits left ≠ bits right then 1 else 0))
  negation : unary "-" (.integer left) = .ok (.integer (-bits left).toInt)
  complement : unary "~" (.integer left) = .ok (.integer (~~~bits left).toInt)

section

variable {left right : ℤ}

/-- Where a result is wrapped, its bits are all that counts. -/
theorem ok_wrap {result : ℤ} {word : BitVec 64} (bits_eq : bits result = word) :
    (.ok (.integer (wrap result)) : Except Problem Value) = .ok (.integer word.toInt) := by
  rw [← toInt_bits, bits_eq]

/-- Where a result is not wrapped, it is a word by itself. -/
theorem ok_word {result : ℤ} {word : BitVec 64} (fits : Fits result) (bits_eq : bits result = word) :
    (.ok (.integer result) : Except Problem Value) = .ok (.integer word.toInt) := by
  rw [eq_toInt fits bits_eq]

/-- A program divides toward zero, and wraps. -/
theorem binary_divide (nonzero : right ≠ 0) : binary "/" (.integer left) (.integer right) =
    .ok (.integer (wrap (left.tdiv right))) := by
  show Value.integer <$> Arithmetic.divide.onIntegers left right = _
  rw [Arithmetic.onIntegers, divide?_eq_some nonzero]
  rfl

/-- The remainder goes with that quotient. -/
theorem binary_modulo (nonzero : right ≠ 0) : binary "%" (.integer left) (.integer right) =
    .ok (.integer (wrap (left.tmod right))) := by
  show Value.integer <$> Arithmetic.modulo.onIntegers left right = _
  rw [Arithmetic.onIntegers, divide?_eq_some nonzero, Int.tmod_def]
  rfl

/-- A remainder is no larger than its dividend, and on the same side of zero. -/
theorem fits_tmod (fits : Fits left) (right : ℤ) : Fits (left.tmod right) := by
  obtain ⟨least, greatest⟩ := fits
  have size : (left.tmod right).natAbs ≤ left.natAbs := by
    rw [Int.natAbs_tmod]
    exact Nat.mod_le ..
  rcases le_total 0 left with nonneg | nonpos
  · have side := Int.tmod_nonneg right nonneg
    constructor <;> omega
  · have side := Int.tmod_nonneg right (Int.neg_nonneg_of_nonpos nonpos)
    rw [Int.neg_tmod] at side
    constructor <;> omega

/-- A word is not changed by wrapping. -/
theorem wrap_of_fits {integer : ℤ} (fits : Fits integer) : wrap integer = integer :=
  (eq_wrap fits rfl).symm

/-- The remainder of a word is not changed by wrapping. -/
theorem binary_modulo_of_fits (fits : Fits left) (nonzero : right ≠ 0) :
    binary "%" (.integer left) (.integer right) = .ok (.integer (left.tmod right)) := by
  rw [binary_modulo nonzero, wrap_of_fits (fits_tmod fits right)]

/-- A shift by a count below the width of a word has a result. -/
theorem isShiftCount_eq_true (least : 0 ≤ right) (greatest : right ≤ 63) :
    isShiftCount right = true := by
  simp only [isShiftCount, Bool.and_eq_true, decide_eq_true_eq]
  omega

/-- A shift to the left wraps. -/
theorem binary_shiftLeft (least : 0 ≤ right) (greatest : right ≤ 63) :
    binary "<<" (.integer left) (.integer right) =
      .ok (.integer (wrap (left <<< right.toNat))) := by
  show Value.integer <$> Bitwise.shiftLeft.onIntegers left right = _
  rw [Bitwise.onIntegers, if_pos (isShiftCount_eq_true least greatest)]
  rfl

/-- A shift to the right keeps the sign and has no need to wrap. -/
theorem binary_shiftRight (least : 0 ≤ right) (greatest : right ≤ 63) :
    binary ">>" (.integer left) (.integer right) =
      .ok (.integer (left >>> right.toNat)) := by
  show Value.integer <$> Bitwise.shiftRight.onIntegers left right = _
  rw [Bitwise.onIntegers, if_pos (isShiftCount_eq_true least greatest)]
  rfl

/-- A truth value is given as one of the integers one and zero. -/
theorem ok_ofBool {holds : Bool} {condition : Prop} [Decidable condition]
    (iff : holds = true ↔ condition) :
    (.ok (.ofBool holds) : Except Problem Value) = .ok (.integer (if condition then 1 else 0)) := by
  rw [Value.ofBool, if_congr iff rfl rfl]

/-- A comparison of integers gives one if it holds, and else zero. -/
theorem relational_integers {operator : String} {holds : Ordering → Bool} {condition : Prop}
    [Decidable condition] (iff : holds (compare left right) = true ↔ condition) :
    relational operator holds (.integer left) (.integer right) =
      .ok (.integer (if condition then 1 else 0)) :=
  ok_ofBool iff

/-- Quotient and remainder make up the dividend, up to wrapping. -/
theorem exists_division (fits : Fits left) (nonzero : right ≠ 0) : ∃ quotient rest,
    binary "/" (.integer left) (.integer right) = .ok (.integer quotient) ∧
    binary "%" (.integer left) (.integer right) = .ok (.integer rest) ∧
    left ≡ quotient * right + rest [ZMOD 2 ^ 64] ∧ (rest = 0 ∨ rest.sign = left.sign) ∧
    |rest| < |right| := by
  have whole := Int.tdiv_mul_add_tmod left right
  have wrapped := ((wrap_modEq (left.tdiv right)).mul_right right).add_right (left.tmod right)
  rw [whole] at wrapped
  exact ⟨_, _, binary_divide nonzero, binary_modulo_of_fits fits nonzero, wrapped.symm,
    or_iff_not_imp_left.mpr sign_tmod_eq, abs_tmod_lt left nonzero⟩

/-! ## The operators on words -/

/-- The operators between two words and in front of a word act on their bits. -/
theorem actsOnBits_of_fits (fits : Fits left) (fits' : Fits right) : ActsOnBits left right := by
  have left_eq := toInt_bits_of_fits fits
  have right_eq := toInt_bits_of_fits fits'
  -- Where the result is wrapped, only its bits matter; where it is not, it has to be a word by
  -- itself.
  exact {
    reads := ⟨left_eq, right_eq⟩
    sum := ok_wrap (BitVec.ofInt_add ..)
    difference := ok_wrap (bits_sub ..)
    product := ok_wrap (BitVec.ofInt_mul ..)
    quotient := by
      intro nonzero
      rw [binary_divide nonzero, BitVec.toInt_sdiv, left_eq, right_eq]
      rfl
    remainder := by
      intro nonzero
      rw [binary_modulo_of_fits fits nonzero, BitVec.toInt_srem, left_eq, right_eq]
    division := exists_division fits
    least := by
      rintro rfl rfl
      exact ⟨rfl, rfl⟩
    conjunction := ok_word (fits_bitAnd fits fits') (bits_bitAnd ..)
    disjunction := ok_word (fits_bitOr fits fits') (bits_bitOr ..)
    exclusion := ok_word (fits_bitXor fits fits') (bits_bitXor ..)
    shiftLeft := by
      intro least greatest
      rw [binary_shiftLeft least greatest]
      exact ok_wrap (bits_shiftLeft ..)
    shiftRight := by
      intro least greatest
      rw [binary_shiftRight least greatest, BitVec.toInt_sshiftRight, left_eq]
    less := relational_integers (by
      rw [decide_eq_true_iff, compare_lt_iff_lt, BitVec.slt_iff_toInt_lt, left_eq, right_eq])
    lessOrEqual := relational_integers (by
      rw [decide_eq_true_iff, Ne, compare_gt_iff_gt, not_lt, BitVec.sle_iff_toInt_le, left_eq,
        right_eq])
    greater := relational_integers (by
      rw [decide_eq_true_iff, compare_gt_iff_gt, BitVec.slt_iff_toInt_lt, left_eq, right_eq])
    greaterOrEqual := relational_integers (by
      rw [decide_eq_true_iff, Ne, compare_lt_iff_lt, not_lt, BitVec.sle_iff_toInt_le, left_eq,
        right_eq])
    equal := ok_ofBool (by rw [decide_eq_true_iff, ← BitVec.toInt_inj, left_eq, right_eq])
    unequal := ok_ofBool (by
      rw [Bool.not_eq_true', decide_eq_false_iff_not, Ne, ← BitVec.toInt_inj, left_eq, right_eq])
    negation := ok_wrap BitVec.ofInt_neg
    complement := ok_word (fits_complement fits) (bits_complement _) }

/-- The integer operators are those of signed 64-bit words in two's complement.  What they rest on
holds of integers of any size: wrapping takes an integer to the only word that is congruent to it, and
division gives the exact quotient rounded toward zero. -/
theorem acts_on_words :
    (∀ left right, Fits left → Fits right → ActsOnBits left right) ∧
    (∀ integer, Fits (wrap integer) ∧ wrap integer ≡ integer [ZMOD 2 ^ 64] ∧
      ∀ word, Fits word → word ≡ integer [ZMOD 2 ^ 64] → word = wrap integer) ∧
    ∀ dividend divisor, divisor ≠ 0 → ∃ quotient, divide? dividend divisor = some quotient ∧
      RoundsTowardZero (dividend / divisor : ℚ) quotient := by
  refine ⟨?_, ?_, ?_⟩
  · exact fun left right fits fits' => actsOnBits_of_fits fits fits'
  · intro integer
    exact ⟨fits_wrap integer, wrap_modEq integer, fun word fits congruent => eq_wrap fits congruent⟩
  · intro dividend divisor nonzero
    exact ⟨_, divide?_eq_some nonzero, roundsTowardZero_tdiv dividend nonzero⟩

end

/-- At the ends of the range: the least word, the shift into the sign, a sum past the greatest word and
a negative dividend. -/
theorem endsOfRange_act :
    binary "/" (.integer (-2 ^ 63)) (.integer (-1)) = .ok (.integer (-2 ^ 63)) ∧
    binary "<<" (.integer 3) (.integer 63) = .ok (.integer (bits 3 <<< 63).toInt) ∧
    (bits 3 <<< 63).toInt = -2 ^ 63 ∧
    binary "+" (.integer (2 ^ 63 - 1)) (.integer 1) =
      .ok (.integer (bits (2 ^ 63 - 1) + bits 1).toInt) ∧
    wrap (2 ^ 64 + 5) = 5 ∧
    ∃ quotient, divide? (-7) 2 = some quotient ∧ quotient = ⌈(-7 / 2 : ℚ)⌉ := by
  obtain ⟨acts, wraps, divides⟩ := acts_on_words
  refine ⟨?_, ?_, by decide, ?_, ?_, ?_⟩
  · exact ((acts (-2 ^ 63) (-1) ⟨by decide, by decide⟩ ⟨by decide, by decide⟩).least rfl rfl).1
  · exact (acts 3 63 ⟨by decide, by decide⟩ ⟨by decide, by decide⟩).shiftLeft (by decide) (by decide)
  · exact (acts (2 ^ 63 - 1) 1 ⟨by decide, by decide⟩ ⟨by decide, by decide⟩).sum
  · exact ((wraps (2 ^ 64 + 5)).2.2 5 ⟨by decide, by decide⟩ (by decide)).symm
  · obtain ⟨quotient, quotient_eq, rounds⟩ := divides (-7) 2 (by decide)
    exact ⟨quotient, quotient_eq, by simpa using rounds.ceil (by norm_num)⟩

end Operator

end Scriptlet
