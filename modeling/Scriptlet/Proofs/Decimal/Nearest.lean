import Mathlib.Algebra.Order.Field.Power
import Mathlib.Data.Rat.Cast.Order
import Mathlib.Tactic.FieldSimp
import Mathlib.Tactic.Linarith
import Mathlib.Tactic.NormNum
import Mathlib.Tactic.Positivity
import Mathlib.Tactic.Ring
import Scriptlet.Decimal.Binary

/-! # The nearest double

Which double is nearest to a ratio of naturals is a question about a rational number.  Two
conditions on a rational determine the exponent and the significand of the double, and the
computation on naturals meets them.

Main definitions:

* `RoundsTo`: a natural is nearest to a rational, and even if two are.
* `IsExponent`: the exponent of the double nearest to a rational.
* `pastDoubles`: the least natural that no finite double is near to.

Main statements:

* `nearest_eq`: exponent and significand determine the magnitude bits.
* `nearest_congr`: the bits depend on the rational only.
* `nearest_lt_infinityBits`: a rational below the largest double has finite bits.
* `ofInteger?_eq_none_iff`: which integers are past all doubles. -/

namespace Scriptlet.Decimal

/-! ## Rounding to a natural -/

/-- A natural is nearest to a rational; of two that are, it is the even one. -/
structure RoundsTo (ratio : ℚ) (natural : ℕ) : Prop where
  le_add : 2 * (natural : ℚ) ≤ 2 * ratio + 1
  le_natural : 2 * ratio ≤ 2 * natural + 1
  even : 2 * (natural : ℚ) = 2 * ratio + 1 ∨ 2 * ratio = 2 * natural + 1 → natural % 2 = 0

/-- Only one natural is nearest. -/
theorem RoundsTo.unique {ratio : ℚ} {natural other : ℕ} (rounds : RoundsTo ratio natural)
    (rounds' : RoundsTo ratio other) : natural = other := by
  wlog ordered : natural ≤ other generalizing natural other with swapped
  · exact (swapped rounds' rounds (by omega)).symm
  rcases Nat.lt_or_eq_of_le ordered with less | same
  · -- Both are at half a unit from the ratio, on different sides, so that one of them is odd.
    have next : (natural : ℚ) + 1 ≤ other := by exact_mod_cast less
    have above := rounds.le_natural
    have below := rounds'.le_add
    have even := rounds.even (Or.inr (by linarith))
    have even' := rounds'.even (Or.inl (by linarith))
    have close : (other : ℚ) ≤ natural + 1 := by linarith
    have : other ≤ natural + 1 := by exact_mod_cast close
    omega
  · exact same

/-- Division to even rounds a ratio. -/
theorem roundsTo_divideToEven (numerator : ℕ) {denominator : ℕ} (positive : 0 < denominator) :
    RoundsTo ((numerator : ℚ) / denominator) (divideToEven numerator denominator) := by
  have positive' : (0 : ℚ) < denominator := by exact_mod_cast positive
  have split : (numerator : ℚ) / denominator =
      (numerator / denominator : ℕ) + ((numerator % denominator : ℕ) : ℚ) / denominator := by
    have whole : (numerator : ℚ) =
        denominator * (numerator / denominator : ℕ) + (numerator % denominator : ℕ) := by
      exact_mod_cast (Nat.div_add_mod numerator denominator).symm
    field_simp
    linarith
  set quotient := numerator / denominator
  set rest := numerator % denominator
  have rest_lt : rest < denominator := Nat.mod_lt _ positive
  have part_nonneg : (0 : ℚ) ≤ (rest : ℚ) / denominator := by positivity
  have part_lt : (rest : ℚ) / denominator < 1 := by
    rw [div_lt_one positive']
    exact_mod_cast rest_lt
  have part_lt_iff : 2 * ((rest : ℚ) / denominator) < 1 ↔ 2 * rest < denominator := by
    rw [← mul_div_assoc, div_lt_one positive']
    exact_mod_cast Iff.rfl
  have part_eq_iff : 2 * ((rest : ℚ) / denominator) = 1 ↔ 2 * rest = denominator := by
    rw [← mul_div_assoc, div_eq_one_iff_eq positive'.ne']
    exact_mod_cast Iff.rfl
  -- From here on there is only the part behind the point, and whether it is below, at or above a
  -- half.
  rw [split]
  set part := (rest : ℚ) / denominator
  show RoundsTo _ (if 2 * rest < denominator then quotient
    else if (2 * rest = denominator && quotient % 2 = 0 : Bool) then quotient else quotient + 1)
  split_ifs with small half
  · have part_small := part_lt_iff.mpr small
    constructor
    · linarith
    · linarith
    · rintro (impossible | impossible) <;> linarith
  · -- A tie whose quotient is even stays.
    simp only [Bool.and_eq_true, decide_eq_true_eq] at half
    have part_half := part_eq_iff.mpr half.1
    exact ⟨by linarith, by linarith, fun _ => half.2⟩
  · -- What is left goes up: more than a half, or a tie whose quotient is odd.
    have part_large : 1 ≤ 2 * part := by
      by_contra less
      exact small (part_lt_iff.mp (by linarith))
    refine ⟨by push_cast; linarith, by push_cast; linarith, ?_⟩
    simp only [Bool.and_eq_true, decide_eq_true_eq, not_and] at half
    rintro (tie | tie)
    · push_cast at tie
      have := half (part_eq_iff.mp (by linarith))
      omega
    · push_cast at tie
      linarith

/-! ## The exponent -/

/-- The exponent of the double nearest to a rational: the one that leaves a significand of 53 bits,
or that of the subnormal numbers. -/
structure IsExponent (ratio : ℚ) (exponent : ℤ) : Prop where
  least : -1074 ≤ exponent
  lt_zpow : ratio < 2 ^ (exponent + 53)
  zpow_le : exponent = -1074 ∨ 2 ^ (exponent + 52) ≤ ratio

/-- A rational has one exponent. -/
theorem IsExponent.unique {ratio : ℚ} {exponent other : ℤ} (first : IsExponent ratio exponent)
    (second : IsExponent ratio other) : exponent = other := by
  wlog ordered : exponent ≤ other generalizing exponent other with swapped
  · exact (swapped second first (by omega)).symm
  rcases second.zpow_le with least | above
  · have := first.least
    omega
  · by_contra different
    have : (2 : ℚ) ^ (exponent + 53) ≤ 2 ^ (other + 52) :=
      zpow_le_zpow_right₀ one_le_two (by omega)
    have := first.lt_zpow
    linarith

/-- Scaling by powers of two keeps the denominator positive. -/
theorem scale_snd_pos (numerator : ℕ) {denominator : ℕ} (positive : 0 < denominator)
    (exponent : ℤ) : 0 < (scale numerator denominator exponent).2 := by
  cases exponent with
  | ofNat exponent => simpa [scale, Nat.shiftLeft_eq] using positive
  | negSucc exponent => exact positive

/-- Scaling divides a ratio by a power of two. -/
theorem scale_ratio (numerator denominator : ℕ) (exponent : ℤ) :
    ((scale numerator denominator exponent).1 : ℚ) / (scale numerator denominator exponent).2 =
      (numerator : ℚ) / denominator / 2 ^ exponent := by
  cases exponent with
  | ofNat exponent => simp [scale, Nat.shiftLeft_eq, div_div]
  | negSucc exponent =>
    simp only [scale, Nat.shiftLeft_eq, Nat.cast_mul, Nat.cast_pow, Nat.cast_ofNat, zpow_negSucc]
    field_simp

/-- The size of a positive ratio, from the sizes of its parts. -/
theorem ratio_bounds {numerator denominator : ℕ} (nonzero : numerator ≠ 0)
    (positive : 0 < denominator) :
    (2 : ℚ) ^ ((numerator.log2 : ℤ) - denominator.log2 - 1) < (numerator : ℚ) / denominator ∧
      (numerator : ℚ) / denominator < 2 ^ ((numerator.log2 : ℤ) - denominator.log2 + 1) := by
  have positive' : (0 : ℚ) < denominator := by exact_mod_cast positive
  have lower : ((2 : ℚ) ^ (numerator.log2 : ℤ)) ≤ numerator := by
    exact_mod_cast Nat.log2_self_le nonzero
  have upper : (numerator : ℚ) < 2 ^ ((numerator.log2 : ℤ) + 1) := by
    exact_mod_cast Nat.lt_log2_self
  have lower' : ((2 : ℚ) ^ (denominator.log2 : ℤ)) ≤ denominator := by
    exact_mod_cast Nat.log2_self_le positive.ne'
  have upper' : (denominator : ℚ) < 2 ^ ((denominator.log2 : ℤ) + 1) := by
    exact_mod_cast Nat.lt_log2_self
  have nonzero' : (2 : ℚ) ≠ 0 := by norm_num
  -- The powers of two around each part bound the ratio from both sides.
  constructor
  · rw [lt_div_iff₀ positive']
    calc (2 : ℚ) ^ ((numerator.log2 : ℤ) - denominator.log2 - 1) * denominator
        < 2 ^ ((numerator.log2 : ℤ) - denominator.log2 - 1) * 2 ^ ((denominator.log2 : ℤ) + 1) :=
          mul_lt_mul_of_pos_left upper' (zpow_pos two_pos _)
      _ = 2 ^ (numerator.log2 : ℤ) := by
          rw [← zpow_add₀ nonzero']
          congr 1
          ring
      _ ≤ numerator := lower
  · rw [div_lt_iff₀ positive']
    calc (numerator : ℚ) < 2 ^ ((numerator.log2 : ℤ) + 1) := upper
      _ = 2 ^ ((numerator.log2 : ℤ) - denominator.log2 + 1) * 2 ^ (denominator.log2 : ℤ) := by
          rw [← zpow_add₀ nonzero']
          congr 1
          ring
      _ ≤ 2 ^ ((numerator.log2 : ℤ) - denominator.log2 + 1) * denominator :=
          mul_le_mul_of_nonneg_left lower' (zpow_pos two_pos _).le

/-- A quotient of naturals is below a natural if the ratio is. -/
theorem div_lt_iff_ratio {numerator denominator bound : ℕ} (positive : 0 < denominator) :
    numerator / denominator < bound ↔ (numerator : ℚ) / denominator < bound := by
  have positive' : (0 : ℚ) < denominator := by exact_mod_cast positive
  rw [Nat.div_lt_iff_lt_mul positive, div_lt_iff₀ positive']
  exact_mod_cast Iff.rfl

/-- The computed exponent is that of the nearest double. -/
theorem isExponent_exponentOf {numerator denominator : ℕ} (nonzero : numerator ≠ 0)
    (positive : 0 < denominator) :
    IsExponent ((numerator : ℚ) / denominator) (exponentOf numerator denominator) := by
  obtain ⟨lower, upper⟩ := ratio_bounds nonzero positive
  set ratio := (numerator : ℚ) / denominator with ratio_eq
  set guess : ℤ := (numerator.log2 : ℤ) - denominator.log2 - 53 with guess_eq
  have nonzero' : (2 : ℚ) ≠ 0 := by norm_num
  have small_iff : (scale numerator denominator guess).1 / (scale numerator denominator guess).2 <
      2 ^ 53 ↔ ratio < 2 ^ (guess + 53) := by
    rw [div_lt_iff_ratio (scale_snd_pos numerator positive guess), scale_ratio, ← ratio_eq,
      div_lt_iff₀ (zpow_pos two_pos guess), add_comm guess, zpow_add₀ nonzero']
    norm_cast
  -- The guess is right or one too small.
  obtain ⟨exact, exact_eq, below, above⟩ : ∃ exact : ℤ,
      exponentOf numerator denominator = max (-1074) exact ∧
      ratio < 2 ^ (exact + 53) ∧ 2 ^ (exact + 52) ≤ ratio := by
    by_cases small : (scale numerator denominator guess).1 /
        (scale numerator denominator guess).2 < 2 ^ 53
    · refine ⟨guess, ?_, small_iff.mp small, ?_⟩
      · simp only [exponentOf, Nat.pow_eq, ← guess_eq, if_pos small]
      · rw [show guess + 52 = (numerator.log2 : ℤ) - denominator.log2 - 1 by omega]
        exact lower.le
    · refine ⟨guess + 1, ?_, ?_, ?_⟩
      · simp only [exponentOf, Nat.pow_eq, ← guess_eq, if_neg small]
      · rw [show guess + 1 + 53 = (numerator.log2 : ℤ) - denominator.log2 + 1 by omega]
        exact upper
      · rw [show guess + 1 + 52 = guess + 53 by ring]
        exact not_lt.mp fun less => small (small_iff.mpr less)
  rw [exact_eq]
  rcases le_total (-1074) exact with normal | subnormal
  · rw [max_eq_right normal]
    exact ⟨normal, below, Or.inr above⟩
  · rw [max_eq_left subnormal]
    exact ⟨le_rfl, below.trans_le (zpow_le_zpow_right₀ one_le_two (by omega)), Or.inl rfl⟩

/-! ## The magnitude bits -/

/-- Exponent and significand determine the bits of the nearest double. -/
theorem nearest_eq {numerator denominator : ℕ} {exponent : ℤ} {significand : ℕ}
    (nonzero : numerator ≠ 0) (positive : 0 < denominator)
    (isExponent : IsExponent ((numerator : ℚ) / denominator) exponent)
    (rounds : RoundsTo ((numerator : ℚ) / denominator / 2 ^ exponent) significand) :
    nearest numerator denominator =
      min infinityBits ((exponent + 1074).toNat * 2 ^ 52 + significand) := by
  have exponent_eq := (isExponent_exponentOf nonzero positive).unique isExponent
  have significand_eq : divideToEven (scale numerator denominator exponent).1
      (scale numerator denominator exponent).2 = significand := by
    have rounds' := roundsTo_divideToEven (scale numerator denominator exponent).1
      (scale_snd_pos numerator positive exponent)
    rw [scale_ratio] at rounds'
    exact rounds'.unique rounds
  simp only [nearest, Nat.pow_eq, if_neg nonzero, exponent_eq, significand_eq]

/-- Every positive ratio has a nearest double. -/
theorem exists_nearest_eq {numerator denominator : ℕ} (nonzero : numerator ≠ 0)
    (positive : 0 < denominator) :
    ∃ exponent significand, IsExponent ((numerator : ℚ) / denominator) exponent ∧
      RoundsTo ((numerator : ℚ) / denominator / 2 ^ exponent) significand := by
  have rounds := roundsTo_divideToEven
    (scale numerator denominator (exponentOf numerator denominator)).1
    (scale_snd_pos numerator positive (exponentOf numerator denominator))
  rw [scale_ratio] at rounds
  exact ⟨_, _, isExponent_exponentOf nonzero positive, rounds⟩

/-- The nearest double depends on the rational only. -/
theorem nearest_congr {numerator denominator numerator' denominator' : ℕ}
    (positive : 0 < denominator) (positive' : 0 < denominator')
    (same : (numerator : ℚ) / denominator = (numerator' : ℚ) / denominator') :
    nearest numerator denominator = nearest numerator' denominator' := by
  have zero_iff : numerator = 0 ↔ numerator' = 0 := by
    have := congrArg (· = (0 : ℚ)) same
    simpa [positive.ne', positive'.ne'] using this
  by_cases zero : numerator = 0
  · simp [nearest, zero, zero_iff.mp zero]
  · obtain ⟨exponent, significand, isExponent, rounds⟩ := exists_nearest_eq zero positive
    rw [nearest_eq zero positive isExponent rounds]
    rw [same] at isExponent rounds
    rw [nearest_eq (mt zero_iff.mpr zero) positive' isExponent rounds]

/-- A significand has at most 53 bits, or is a power of two. -/
theorem IsExponent.significand_le {ratio : ℚ} {exponent : ℤ} {significand : ℕ}
    (isExponent : IsExponent ratio exponent)
    (rounds : RoundsTo (ratio / 2 ^ exponent) significand) : significand ≤ 2 ^ 53 := by
  have below : ratio / 2 ^ exponent < 2 ^ 53 := by
    rw [div_lt_iff₀ (zpow_pos two_pos exponent)]
    have := isExponent.lt_zpow
    rw [add_comm, zpow_add₀ (by norm_num : (2 : ℚ) ≠ 0)] at this
    exact_mod_cast this
  have close := rounds.le_add
  have : (2 * significand : ℚ) < 2 * 2 ^ 53 + 1 := by linarith
  have : 2 * significand < 2 * 2 ^ 53 + 1 := by exact_mod_cast this
  omega

/-- The double nearest to a number well below the largest double is finite. -/
theorem nearest_lt_infinityBits {numerator denominator : ℕ} (positive : 0 < denominator)
    (below : (numerator : ℚ) / denominator < 2 ^ (1023 : ℤ)) :
    nearest numerator denominator < infinityBits := by
  by_cases zero : numerator = 0
  · simp [nearest, zero, infinityBits]
  · obtain ⟨exponent, significand, isExponent, rounds⟩ := exists_nearest_eq zero positive
    have small := isExponent.significand_le rounds
    have least := isExponent.least
    have exponent_le : exponent ≤ 970 := by
      rcases isExponent.zpow_le with subnormal | above
      · omega
      · have := (zpow_lt_zpow_iff_right₀ (by norm_num : (1 : ℚ) < 2)).mp (above.trans_lt below)
        omega
    rw [nearest_eq zero positive isExponent rounds]
    refine (min_le_right _ _).trans_lt ?_
    rw [infinityBits, Nat.pow_eq]
    have : (exponent + 1074).toNat ≤ 2044 := by omega
    omega

/-- Every word is near a double. -/
theorem exists_ofInteger?_eq {integer : ℤ} (least : -2 ^ 63 ≤ integer)
    (greatest : integer < 2 ^ 63) : ∃ number, ofInteger? integer = some number := by
  have size : integer.natAbs ≤ 2 ^ 63 := by omega
  have below : ((integer.natAbs : ℕ) : ℚ) / (1 : ℕ) < 2 ^ (1023 : ℤ) := by
    have size' : ((integer.natAbs : ℕ) : ℚ) ≤ 2 ^ (63 : ℤ) := by exact_mod_cast size
    rw [Nat.cast_one, div_one]
    exact size'.trans_lt (zpow_lt_zpow_right₀ (by norm_num) (by norm_num))
  have finite := nearest_lt_infinityBits one_pos below
  exact ⟨_, by rw [ofInteger?, if_pos finite]⟩

/-! ## The largest double -/

/-- The least natural that no finite double is near to: the largest double, `(2 ^ 53 - 1) * 2 ^ 971`,
and half a unit in its last place. -/
def pastDoubles : ℕ := (2 ^ 54 - 1) * 2 ^ 970

/-- The least integer past all doubles lies half a step past the largest of them. -/
theorem cast_pastDoubles : (pastDoubles : ℚ) = (2 ^ 54 - 1) * 2 ^ (970 : ℤ) := by
  have unit : ((2 ^ 970 : ℕ) : ℚ) = 2 ^ (970 : ℤ) := Nat.cast_pow 2 970
  rw [pastDoubles, Nat.cast_mul, unit]
  norm_num

/-- Among the numbers with the exponent of the largest double, those that are rounded up to the next
power of two are the ones past all doubles. -/
theorem RoundsTo.power_le_iff {ratio : ℚ} {significand : ℕ} (rounds : RoundsTo ratio significand) :
    2 ^ 53 ≤ significand ↔ 2 ^ 54 - 1 ≤ 2 * ratio := by
  constructor
  · intro large
    have large' : (2 ^ 53 : ℚ) ≤ significand := by exact_mod_cast large
    have := rounds.le_add
    linarith
  · intro large
    have close := rounds.le_natural
    have atLeast : (2 ^ 53 : ℚ) - 1 ≤ significand := by linarith
    have atLeast' : 2 ^ 53 ≤ significand + 1 := by
      have : (2 ^ 53 : ℚ) ≤ (significand + 1 : ℕ) := by push_cast; linarith
      exact_mod_cast this
    by_contra small
    -- The number would be a tie, and the lower significand is odd.
    have significand_eq : significand = 2 ^ 53 - 1 := by omega
    have tie : 2 * ratio = 2 * significand + 1 := by
      rw [significand_eq] at close ⊢
      push_cast at close ⊢
      linarith
    have even := rounds.even (.inr tie)
    omega

/-- A natural is past all doubles if its exponent is too large, or if it is rounded up to a power of
two. -/
theorem IsExponent.pastDoubles_le_iff {natural : ℕ} {exponent : ℤ} {significand : ℕ}
    (isExponent : IsExponent natural exponent)
    (rounds : RoundsTo (natural / 2 ^ exponent) significand) :
    pastDoubles ≤ natural ↔ 971 < exponent ∨ exponent = 971 ∧ 2 ^ 53 ≤ significand := by
  rw [← Nat.cast_le (α := ℚ), cast_pastDoubles]
  have unit_pos : (0 : ℚ) < 2 ^ (970 : ℤ) := zpow_pos two_pos _
  have shift : ∀ more : ℤ, (2 : ℚ) ^ (more + 970) = 2 ^ more * 2 ^ (970 : ℤ) :=
    fun more => zpow_add₀ two_ne_zero more 970
  -- Past all doubles begins half a unit above the largest one, whose exponent is 971.
  rcases lt_trichotomy exponent 971 with below | rfl | above
  · have bound := isExponent.lt_zpow.trans_le
      (zpow_le_zpow_right₀ one_le_two (show exponent + 53 ≤ 53 + 970 by omega))
    rw [shift] at bound
    refine iff_of_false (not_le.mpr ?_) (by omega)
    generalize (2 : ℚ) ^ (970 : ℤ) = unit at bound unit_pos
    norm_num at bound
    linarith
  · rw [or_iff_right (lt_irrefl _), and_iff_right rfl, rounds.power_le_iff,
      show (971 : ℤ) = 1 + 970 by rfl, shift, zpow_one, ← mul_div_assoc,
      mul_div_mul_left _ _ two_ne_zero, le_div_iff₀ unit_pos]
  · have bound := isExponent.zpow_le.resolve_left (by omega)
    replace bound :=
      (zpow_le_zpow_right₀ one_le_two (show 54 + 970 ≤ exponent + 52 by omega)).trans bound
    rw [shift] at bound
    refine iff_of_true ?_ (.inl above)
    generalize (2 : ℚ) ^ (970 : ℤ) = unit at bound unit_pos
    norm_num at bound
    linarith

/-- The double nearest to a natural is finite exactly if the natural is not past all doubles. -/
theorem infinityBits_le_nearest_iff {natural : ℕ} :
    infinityBits ≤ nearest natural 1 ↔ pastDoubles ≤ natural := by
  by_cases zero : natural = 0
  · have positive : (0 : ℚ) < pastDoubles := by
      rw [cast_pastDoubles]
      exact mul_pos (by norm_num) (zpow_pos two_pos 970)
    rw [zero, nearest, if_pos rfl]
    exact iff_of_false (by decide) (not_le.mpr (by exact_mod_cast positive))
  obtain ⟨exponent, significand, isExponent, rounds⟩ := exists_nearest_eq zero one_pos
  have small := isExponent.significand_le rounds
  rw [nearest_eq zero one_pos isExponent rounds, le_min_iff, and_iff_right le_rfl]
  rw [Nat.cast_one, div_one] at isExponent rounds
  rw [isExponent.pastDoubles_le_iff rounds]
  have least := isExponent.least
  -- Unless it is subnormal, the rounded significand has all its bits.
  have normal : exponent = -1074 ∨ 2 ^ 52 ≤ significand := by
    refine isExponent.zpow_le.imp_right fun bound => ?_
    have close := rounds.le_natural
    rw [add_comm, zpow_add₀ two_ne_zero, ← le_div_iff₀ (zpow_pos two_pos exponent)] at bound
    have : (2 ^ 53 : ℚ) ≤ (2 * significand + 1 : ℕ) := by
      push_cast
      norm_num at bound ⊢
      linarith
    have : 2 ^ 53 ≤ 2 * significand + 1 := by exact_mod_cast this
    omega
  have infinityBits_eq : infinityBits = 2047 * 2 ^ 52 := rfl
  omega

/-- Integers past all doubles, and no others, have no double next to them. -/
theorem ofInteger?_eq_none_iff {integer : ℤ} :
    ofInteger? integer = none ↔ pastDoubles ≤ integer.natAbs := by
  rw [← infinityBits_le_nearest_iff]
  simp only [ofInteger?]
  split <;> simp <;> omega

end Scriptlet.Decimal
