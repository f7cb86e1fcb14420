import Scriptlet.Decimal.Shortest
import Scriptlet.Proofs.Decimal.Nearest

/-! # Shortest decimals read back

A decimal that is close enough to a double reads back as that double, and seventeen digits are close
enough.  Which double a decimal reads as depends on its value only, so that zeros at its end do not
matter.

Main definitions:

* `IsSignificand`: the significands and exponents of the finite doubles.
* `IsPoint`: how many digits a rational has before the point.

Main statements:

* `nearest_of_close`: a ratio within half a unit of a double is nearest to it.
* `nearestDecimal_congr`: the nearest double depends on the value of a decimal only.
* `shortest_readsBack`: the shortest decimal of a double reads back as that double. -/

namespace Scriptlet.Decimal

/-! ## Ratios close to a double -/

/-- The double `significand · 2 ^ exponent` is finite, and has no other significand. -/
structure IsSignificand (significand : ℕ) (exponent : ℤ) : Prop where
  lt : significand < 2 ^ 53
  least : -1074 ≤ exponent
  greatest : exponent ≤ 971
  normal : exponent = -1074 ∨ 2 ^ 52 ≤ significand

/-- No double but zero is below the least one. -/
theorem IsSignificand.zpow_le {significand : ℕ} {exponent : ℤ}
    (isSignificand : IsSignificand significand exponent) (nonzero : significand ≠ 0) :
    (2 : ℚ) ^ (-1074 : ℤ) ≤ significand * 2 ^ exponent := by
  have at_least_one : (1 : ℚ) ≤ significand := Nat.one_le_cast_iff_ne_zero.mpr nonzero
  have : (2 : ℚ) ^ (-1074 : ℤ) ≤ 2 ^ exponent :=
    zpow_le_zpow_right₀ one_le_two isSignificand.least
  have : (0 : ℚ) < 2 ^ exponent := zpow_pos two_pos _
  nlinarith

/-- No double is past the largest power of two. -/
theorem IsSignificand.le_zpow {significand : ℕ} {exponent : ℤ}
    (isSignificand : IsSignificand significand exponent) :
    ((significand : ℚ) + 1) * 2 ^ exponent ≤ 2 ^ (1024 : ℤ) := by
  have at_most : (significand : ℚ) + 1 ≤ 2 ^ 53 := by exact_mod_cast isSignificand.lt
  calc ((significand : ℚ) + 1) * 2 ^ exponent ≤ 2 ^ 53 * 2 ^ (971 : ℤ) := by
        gcongr
        · norm_num
        · exact isSignificand.greatest
    _ = 2 ^ (1024 : ℤ) := by
        rw [show (1024 : ℤ) = (53 : ℕ) + 971 by norm_num, zpow_add₀ (by norm_num), zpow_natCast]

/-- A shift multiplies by a power of two. -/
theorem two_zpow_add_natCast (exponent : ℤ) (shift : ℕ) :
    (2 : ℚ) ^ (exponent + shift) = 2 ^ shift * 2 ^ exponent := by
  rw [zpow_add₀ (by norm_num), zpow_natCast, mul_comm]

/-- A ratio at less than half a unit from a multiple of the unit rounds to it. -/
theorem roundsTo_of_close {ratio : ℚ} {significand : ℕ} {exponent : ℤ}
    (close : |ratio - significand * 2 ^ exponent| < 2 ^ exponent / 2) :
    RoundsTo (ratio / 2 ^ exponent) significand := by
  have unit_pos : (0 : ℚ) < 2 ^ exponent := zpow_pos two_pos _
  obtain ⟨above, below⟩ := abs_lt.mp close
  have upper : ratio / 2 ^ exponent < significand + 1 / 2 := by
    rw [div_lt_iff₀ unit_pos]
    linarith
  have lower : significand - 1 / 2 < ratio / 2 ^ exponent := by
    rw [lt_div_iff₀ unit_pos]
    linarith
  exact ⟨by linarith, by linarith, by rintro (tie | tie) <;> linarith⟩

/-- A ratio just below a power of two rounds up to it: the exponent is the one below, and the
significand is the least that is too large for it. -/
theorem nearest_of_below {numerator denominator : ℕ} {exponent : ℤ} (nonzero : numerator ≠ 0)
    (positive : 0 < denominator) (least : -1074 < exponent) (greatest : exponent ≤ 971)
    (below : (numerator : ℚ) / denominator < 2 ^ 52 * 2 ^ exponent)
    (close : |(numerator : ℚ) / denominator - 2 ^ 52 * 2 ^ exponent| < 2 ^ exponent / 4) :
    nearest numerator denominator = (exponent + 1074).toNat * 2 ^ 52 + 2 ^ 52 := by
  have half : (2 : ℚ) ^ (exponent - 1) = 2 ^ exponent / 2 := by
    rw [zpow_sub_one₀ (by norm_num)]
    ring
  have isExponent : IsExponent ((numerator : ℚ) / denominator) (exponent - 1) := by
    refine ⟨by omega, ?_, Or.inr ?_⟩
    · rw [show exponent - 1 + 53 = exponent + (52 : ℕ) by push_cast; ring, two_zpow_add_natCast]
      exact below
    · rw [show exponent - 1 + 52 = exponent + (51 : ℕ) by push_cast; ring, two_zpow_add_natCast]
      have : (0 : ℚ) < 2 ^ exponent := zpow_pos two_pos _
      linarith [(abs_lt.mp close).1]
  have rounds : RoundsTo ((numerator : ℚ) / denominator / 2 ^ (exponent - 1)) (2 ^ 53) := by
    apply roundsTo_of_close
    rw [half, Nat.cast_pow, Nat.cast_ofNat,
      show (2 : ℚ) ^ 53 * (2 ^ exponent / 2) = 2 ^ 52 * 2 ^ exponent by ring]
    linarith
  rw [nearest_eq nonzero positive isExponent rounds, infinityBits, Nat.pow_eq]
  omega

/-- A ratio at less than half a unit from a double is nearest to it.  Below a power of two the
doubles are twice as dense, so that the ratio has to be twice as close there. -/
theorem nearest_of_close {numerator denominator significand : ℕ} {exponent : ℤ}
    (isSignificand : IsSignificand significand exponent) (nonzero : significand ≠ 0)
    (positive : 0 < denominator)
    (close : |(numerator : ℚ) / denominator - significand * 2 ^ exponent| < 2 ^ exponent / 2)
    (closer : significand = 2 ^ 52 →
      |(numerator : ℚ) / denominator - significand * 2 ^ exponent| < 2 ^ exponent / 4) :
    nearest numerator denominator = (exponent + 1074).toNat * 2 ^ 52 + significand := by
  obtain ⟨lt, least, greatest, normal⟩ := isSignificand
  have unit_pos : (0 : ℚ) < 2 ^ exponent := zpow_pos two_pos _
  obtain ⟨above, below⟩ := abs_lt.mp close
  have numerator_ne : numerator ≠ 0 := by
    rintro rfl
    have : (1 : ℚ) ≤ significand := Nat.one_le_cast_iff_ne_zero.mpr nonzero
    rw [Nat.cast_zero, zero_div] at above
    nlinarith
  have lt_zpow : (numerator : ℚ) / denominator < 2 ^ (exponent + 53) := by
    have : (significand : ℚ) + 1 ≤ 2 ^ 53 := by exact_mod_cast lt
    rw [show exponent + 53 = exponent + (53 : ℕ) by rfl, two_zpow_add_natCast]
    nlinarith
  -- Mostly the ratio has the exponent of the double itself.
  by_cases same : exponent = -1074 ∨ 2 ^ (exponent + 52) ≤ (numerator : ℚ) / denominator
  · rw [nearest_eq numerator_ne positive ⟨least, lt_zpow, same⟩ (roundsTo_of_close close),
      infinityBits, Nat.pow_eq]
    omega
  · -- The double is a power of two, and the ratio lies below it.
    obtain ⟨exponent_ne, below_power⟩ := not_or.mp same
    rw [show exponent + 52 = exponent + (52 : ℕ) by rfl, two_zpow_add_natCast, not_le]
      at below_power
    obtain rfl : significand = 2 ^ 52 := by
      refine le_antisymm ?_ (normal.resolve_left exponent_ne)
      by_contra greater
      have : (2 : ℚ) ^ 52 + 1 ≤ significand := by exact_mod_cast not_le.mp greater
      nlinarith
    have close' := closer rfl
    rw [Nat.cast_pow, Nat.cast_ofNat] at close'
    exact nearest_of_below numerator_ne positive (by omega) greatest below_power close'

/-- A double is nearest to itself. -/
theorem nearest_of_eq {numerator denominator significand : ℕ} {exponent : ℤ}
    (isSignificand : IsSignificand significand exponent) (nonzero : significand ≠ 0)
    (positive : 0 < denominator)
    (same : (numerator : ℚ) / denominator = significand * 2 ^ exponent) :
    nearest numerator denominator = (exponent + 1074).toNat * 2 ^ 52 + significand := by
  have unit_pos : (0 : ℚ) < 2 ^ exponent := zpow_pos two_pos _
  refine nearest_of_close isSignificand nonzero positive ?_ fun _ => ?_
  · rw [same, sub_self, abs_zero]
    positivity
  · rw [same, sub_self, abs_zero]
    positivity

/-! ## The point of a decimal -/

/-- A rational has a number of digits before the point; zeros follow the point if it is negative. -/
structure IsPoint (ratio : ℚ) (point : ℤ) : Prop where
  zpow_le : 10 ^ (point - 1) ≤ ratio
  lt_zpow : ratio < 10 ^ point

/-- A rational has its point in one place. -/
theorem IsPoint.unique {ratio : ℚ} {point other : ℤ} (first : IsPoint ratio point)
    (second : IsPoint ratio other) : point = other := by
  have := (zpow_lt_zpow_iff_right₀ (by norm_num)).mp (first.zpow_le.trans_lt second.lt_zpow)
  have := (zpow_lt_zpow_iff_right₀ (by norm_num)).mp (second.zpow_le.trans_lt first.lt_zpow)
  omega

/-- The digits of a natural, and the power it is multiplied with, determine the point. -/
theorem isPoint_toDigits {significand : ℕ} (nonzero : significand ≠ 0) (exponent : ℤ) :
    IsPoint (significand * 10 ^ exponent) ((Nat.toDigits 10 significand).length + exponent) := by
  have count_pos : 0 < (Nat.toDigits 10 significand).length := Nat.length_toDigits_pos
  generalize count_eq : (Nat.toDigits 10 significand).length = count at count_pos
  have upper : significand < 10 ^ count :=
    (Nat.length_toDigits_le_iff (by norm_num) count_pos).mp count_eq.le
  have lower : 10 ^ (count - 1) ≤ significand := by
    rcases Nat.eq_or_lt_of_le count_pos with one | more
    · rw [← one]
      simpa using Nat.one_le_iff_ne_zero.mpr nonzero
    · by_contra less
      have := (Nat.length_toDigits_le_iff (by norm_num) (by omega)).mpr (not_le.mp less)
      omega
  have unit_pos : (0 : ℚ) < 10 ^ exponent := zpow_pos (by norm_num) _
  constructor
  · rw [show (count : ℤ) + exponent - 1 = ((count - 1 : ℕ) : ℤ) + exponent by omega,
      zpow_add₀ (by norm_num), zpow_natCast]
    gcongr
    exact_mod_cast lower
  · rw [zpow_add₀ (by norm_num), zpow_natCast]
    gcongr
    exact_mod_cast upper

/-! ## The double nearest to a decimal -/

/-- Scaling by powers of ten keeps the denominator positive. -/
theorem scaleTen_snd_pos (numerator : ℕ) {denominator : ℕ} (positive : 0 < denominator)
    (power : ℤ) : 0 < (scaleTen numerator denominator power).2 := by
  cases power with
  | ofNat power => exact Nat.mul_pos positive (Nat.pow_pos (by norm_num))
  | negSucc power => exact positive

/-- Scaling divides a ratio by a power of ten. -/
theorem scaleTen_ratio (numerator denominator : ℕ) (power : ℤ) :
    ((scaleTen numerator denominator power).1 : ℚ) / (scaleTen numerator denominator power).2 =
      (numerator : ℚ) / denominator / 10 ^ power := by
  cases power with
  | ofNat power => simp [scaleTen, div_div]
  | negSucc power =>
    simp only [scaleTen, Nat.pow_eq, Nat.cast_mul, Nat.cast_pow, Nat.cast_ofNat, zpow_negSucc]
    field_simp

/-- Within the bounds on its size, a decimal is nearest to what its value is nearest to. -/
theorem nearestDecimal_eq_nearest {significand numerator denominator : ℕ} {exponent point : ℤ}
    (nonzero : significand ≠ 0) (positive : 0 < denominator)
    (same : (significand : ℚ) * 10 ^ exponent = (numerator : ℚ) / denominator)
    (isPoint : IsPoint ((numerator : ℚ) / denominator) point) (least : -330 ≤ point)
    (greatest : point ≤ 310) :
    nearestDecimal significand exponent = nearest numerator denominator := by
  have point_eq := (same ▸ isPoint_toDigits nonzero exponent).unique isPoint
  simp only [nearestDecimal, Nat.pow_eq, point_eq, nonzero, decide_false, Bool.false_or,
    decide_eq_true_eq, if_neg (not_lt.mpr least), if_neg (not_lt.mpr greatest)]
  cases exponent with
  | ofNat power =>
    refine nearest_congr one_pos positive ?_
    rw [← same]
    simp
  | negSucc power =>
    refine nearest_congr (by positivity) positive ?_
    rw [← same, zpow_negSucc]
    simp [div_eq_mul_inv]

/-- The nearest double depends on the value of a decimal only. -/
theorem nearestDecimal_congr {significand significand' : ℕ} {exponent exponent' : ℤ}
    (same : (significand : ℚ) * 10 ^ exponent = significand' * 10 ^ exponent') :
    nearestDecimal significand exponent = nearestDecimal significand' exponent' := by
  have zero_iff : significand = 0 ↔ significand' = 0 := by
    have nonzero : ∀ power : ℤ, (10 : ℚ) ^ power ≠ 0 := fun power =>
      zpow_ne_zero power (by norm_num)
    have := congrArg (· = (0 : ℚ)) same
    simpa [nonzero] using this
  by_cases zero : significand = 0
  · simp [nearestDecimal, zero, zero_iff.mp zero]
  · have nonzero' : significand' ≠ 0 := mt zero_iff.mpr zero
    -- Equal values have the point in the same place, so both are in the range that is rounded or
    -- neither.
    have isPoint := isPoint_toDigits zero exponent
    have point_eq := isPoint.unique (same ▸ isPoint_toDigits nonzero' exponent')
    by_cases inside : -330 ≤ (Nat.toDigits 10 significand).length + exponent ∧
        (Nat.toDigits 10 significand).length + exponent ≤ 310
    · have ratio := scaleTen_ratio significand 1 (-exponent)
      rw [Nat.cast_one, div_one, zpow_neg, div_inv_eq_mul] at ratio
      have positive := scaleTen_snd_pos significand one_pos (-exponent)
      rw [nearestDecimal_eq_nearest zero positive ratio.symm (ratio ▸ isPoint) inside.1 inside.2,
        nearestDecimal_eq_nearest nonzero' positive (ratio.trans same).symm (ratio ▸ isPoint)
          inside.1 inside.2]
    · simp only [nearestDecimal, zero, nonzero', decide_false, Bool.false_or, decide_eq_true_eq,
        ← point_eq]
      split_ifs with small large
      · rfl
      · rfl
      · exact absurd ⟨not_lt.mp small, not_lt.mp large⟩ inside

/-! ## Seventeen digits -/

/-- Ten to a power is at most two to another, as `10 ^ 3 ≤ 2 ^ 10` and `2 ^ 43 ≤ 10 ^ 13`. -/
theorem ten_zpow_le_two_zpow {power exponent : ℤ} (large : 10 * power ≤ 3 * exponent)
    (small : 43 * power ≤ 13 * exponent) : (10 : ℚ) ^ power ≤ 2 ^ exponent := by
  have ten_pos : (0 : ℚ) < 10 ^ power := zpow_pos (by norm_num) _
  have unit_pos : (0 : ℚ) < 2 ^ exponent := zpow_pos two_pos _
  rcases le_total 0 power with nonneg | nonpos
  · rw [← pow_le_pow_iff_left₀ ten_pos.le unit_pos.le (by norm_num : 3 ≠ 0)]
    calc ((10 : ℚ) ^ power) ^ 3 = (10 ^ 3) ^ power := by
          rw [← zpow_natCast, ← zpow_natCast, zpow_comm]
      _ ≤ (2 ^ 10) ^ power := zpow_le_zpow_left₀ nonneg (by norm_num) (by norm_num)
      _ = 2 ^ (10 * power) := by rw [zpow_mul, ← zpow_natCast (2 : ℚ) 10]; rfl
      _ ≤ 2 ^ (exponent * 3) := zpow_le_zpow_right₀ one_le_two (by omega)
      _ = (2 ^ exponent) ^ 3 := by rw [zpow_mul]; rfl
  · rw [← pow_le_pow_iff_left₀ ten_pos.le unit_pos.le (by norm_num : 13 ≠ 0)]
    have inverted : ((10 : ℚ) ^ 13) ^ power ≤ (2 ^ 43) ^ power := by
      have := zpow_le_zpow_left₀ (neg_nonneg.mpr nonpos) (by norm_num)
        (by norm_num : (2 : ℚ) ^ 43 ≤ 10 ^ 13)
      rw [zpow_neg, zpow_neg] at this
      exact (inv_le_inv₀ (by positivity) (by positivity)).mp this
    calc ((10 : ℚ) ^ power) ^ 13 = (10 ^ 13) ^ power := by
          rw [← zpow_natCast, ← zpow_natCast, zpow_comm]
      _ ≤ (2 ^ 43) ^ power := inverted
      _ = 2 ^ (43 * power) := by rw [zpow_mul, ← zpow_natCast (2 : ℚ) 43]; rfl
      _ ≤ 2 ^ (exponent * 13) := zpow_le_zpow_right₀ one_le_two (by omega)
      _ = (2 ^ exponent) ^ 13 := by rw [zpow_mul]; rfl

/-- Comparing with a power of ten is done on integers. -/
theorem belowPower_iff {numerator denominator : ℕ} (positive : 0 < denominator) (power : ℤ) :
    belowPower numerator denominator power = true ↔
      (numerator : ℚ) / denominator < 10 ^ power := by
  have positive' : (0 : ℚ) < denominator := by exact_mod_cast positive
  rw [div_lt_iff₀ positive']
  cases power with
  | ofNat power =>
    simp only [belowPower, decide_eq_true_eq, Int.ofNat_eq_natCast, zpow_natCast]
    rw [mul_comm denominator]
    exact_mod_cast Iff.rfl
  | negSucc power =>
    simp only [belowPower, decide_eq_true_eq, zpow_negSucc]
    rw [inv_mul_eq_div, lt_div_iff₀ (by positivity)]
    exact_mod_cast Iff.rfl

/-- A ratio of the size of a double has at least the computed number of digits before the point. -/
theorem zpow_pointOf_le {numerator denominator : ℕ} (nonzero : numerator ≠ 0)
    (positive : 0 < denominator) (least : (2 : ℚ) ^ (-1074 : ℤ) ≤ (numerator : ℚ) / denominator)
    (greatest : (numerator : ℚ) / denominator < 2 ^ (1024 : ℤ)) :
    (10 : ℚ) ^ (pointOf numerator denominator - 1) ≤ (numerator : ℚ) / denominator := by
  obtain ⟨lower, upper⟩ := ratio_bounds nonzero positive
  set size : ℤ := (numerator.log2 : ℤ) - denominator.log2 with size_eq
  have size_lt := (zpow_lt_zpow_iff_right₀ (by norm_num : (1 : ℚ) < 2)).mp (lower.trans greatest)
  have lt_size := (zpow_lt_zpow_iff_right₀ (by norm_num : (1 : ℚ) < 2)).mp (least.trans_lt upper)
  -- The first guess, by the quotient of the logarithms, is not too large.
  have start : (10 : ℚ) ^ (size * 30103 / 100000 - 1 - 1) ≤ (numerator : ℚ) / denominator :=
    (ten_zpow_le_two_zpow (by omega) (by omega)).trans lower.le
  have next {power : ℤ} (above : ¬belowPower numerator denominator power = true) :
      (10 : ℚ) ^ power ≤ (numerator : ℚ) / denominator := by
    rwa [belowPower_iff positive, not_lt] at above
  simp only [pointOf, ← size_eq]
  generalize size * 30103 / 100000 - 1 = guess at start
  simp only [List.map_cons, List.map_nil, List.find?_cons, List.find?_nil, add_zero]
  -- Each further guess is only made after the one before was found too small.
  split
  · exact start
  · rename_i first
    split
    · rw [Option.getD_some, add_sub_cancel_right]
      exact next (by simp [first])
    · rename_i second
      split
      · rw [Option.getD_some, show guess + 2 - 1 = guess + 1 by ring]
        exact next (by simp [second])
      · rename_i third
        rw [Option.getD_none, show guess + 3 - 1 = guess + 2 by ring]
        exact next (by simp [third])

/-- A decimal at less than half a unit from a double reads as that double, as ratios do. -/
theorem nearestDecimal_of_close {number significand : ℕ} {power exponent : ℤ}
    (isSignificand : IsSignificand significand exponent) (nonzero : significand ≠ 0)
    (close : |(number : ℚ) * 10 ^ power - significand * 2 ^ exponent| < 2 ^ exponent / 2)
    (closer : significand = 2 ^ 52 →
      |(number : ℚ) * 10 ^ power - significand * 2 ^ exponent| < 2 ^ exponent / 4) :
    nearestDecimal number power = (exponent + 1074).toNat * 2 ^ 52 + significand := by
  have unit_pos : (0 : ℚ) < 2 ^ exponent := zpow_pos two_pos _
  have at_least_one : (1 : ℚ) ≤ significand := Nat.one_le_cast_iff_ne_zero.mpr nonzero
  obtain ⟨above, below⟩ := abs_lt.mp close
  have lower : (2 : ℚ) ^ (-1075 : ℤ) < number * 10 ^ power := by
    have := isSignificand.zpow_le nonzero
    rw [show (-1074 : ℤ) = -1075 + 1 by norm_num, zpow_add_one₀ (by norm_num)] at this
    nlinarith
  have upper : (number : ℚ) * 10 ^ power < 2 ^ (1024 : ℤ) := by
    have := isSignificand.le_zpow
    linarith
  have number_ne : number ≠ 0 := by
    rintro rfl
    have : (0 : ℚ) < 2 ^ (-1075 : ℤ) := zpow_pos two_pos _
    simp only [Nat.cast_zero, zero_mul] at lower
    linarith
  -- The guards against powers of ten that are far out do not come in: the ratio is within the
  -- doubles.
  have isPoint := isPoint_toDigits number_ne power
  generalize (Nat.toDigits 10 number).length + power = point at isPoint
  have least : -330 ≤ point := by
    by_contra less
    have := lower.trans isPoint.lt_zpow
    have : (10 : ℚ) ^ point ≤ 2 ^ (-1075 : ℤ) := ten_zpow_le_two_zpow (by omega) (by omega)
    linarith
  have greatest : point ≤ 310 := by
    have : (2 : ℚ) ^ (1024 : ℤ) ≤ 10 ^ (310 : ℤ) := by
      have inverted := @ten_zpow_le_two_zpow (-310) (-1024) (by norm_num) (by norm_num)
      rw [zpow_neg, zpow_neg] at inverted
      exact (inv_le_inv₀ (zpow_pos (by norm_num) _) (zpow_pos two_pos _)).mp inverted
    have := (zpow_lt_zpow_iff_right₀ (by norm_num)).mp
      ((isPoint.zpow_le.trans_lt upper).trans_le this)
    omega
  have ratio := scaleTen_ratio number 1 (-power)
  rw [Nat.cast_one, div_one, zpow_neg, div_inv_eq_mul] at ratio
  have positive := scaleTen_snd_pos number one_pos (-power)
  rw [nearestDecimal_eq_nearest number_ne positive ratio.symm (ratio ▸ isPoint) least greatest]
  exact nearest_of_close isSignificand nonzero positive (ratio ▸ close) (ratio ▸ closer)

/-- Seventeen digits of a double are close enough to read back. -/
theorem nearestDecimal_seventeen {number significand : ℕ} {point exponent : ℤ}
    (isSignificand : IsSignificand significand exponent) (nonzero : significand ≠ 0)
    (zpow_le : (10 : ℚ) ^ (point - 1) ≤ significand * 2 ^ exponent)
    (rounds : RoundsTo (significand * 2 ^ exponent / 10 ^ (point - 17)) number) :
    nearestDecimal number (point - 17) = (exponent + 1074).toNat * 2 ^ 52 + significand := by
  have unit_pos : (0 : ℚ) < 2 ^ exponent := zpow_pos two_pos _
  have grid_pos : (0 : ℚ) < 10 ^ (point - 17) := zpow_pos (by norm_num) _
  have fine : (10 : ℚ) ^ 16 * 10 ^ (point - 17) ≤ significand * 2 ^ exponent := by
    refine le_of_eq_of_le ?_ zpow_le
    rw [show point - 1 = (16 : ℕ) + (point - 17) by push_cast; ring, zpow_add₀ (by norm_num),
      zpow_natCast]
  -- Half a unit of the seventeenth digit is less than half a unit of the double.
  have distance : |(number : ℚ) * 10 ^ (point - 17) - significand * 2 ^ exponent| ≤
      10 ^ (point - 17) / 2 := by
    have below := rounds.le_add
    have above := rounds.le_natural
    generalize value_eq : (significand : ℚ) * 2 ^ exponent = value at below above
    have split : value = value / 10 ^ (point - 17) * 10 ^ (point - 17) :=
      (div_mul_cancel₀ value grid_pos.ne').symm
    rw [abs_le]
    constructor
    · nlinarith
    · nlinarith
  refine nearestDecimal_of_close isSignificand nonzero (distance.trans_lt ?_) fun power_of_two =>
    distance.trans_lt ?_
  · have : (significand : ℚ) + 1 ≤ 2 ^ 53 := by exact_mod_cast isSignificand.lt
    nlinarith
  · rw [power_of_two] at fine
    push_cast at fine
    linarith

/-! ## The shortest decimal -/

/-- A number with so many digits is only found if it reads back. -/
theorem neighbour?_readsBack {bits numerator denominator count number : ℕ} {point : ℤ}
    (found : neighbour? bits numerator denominator point count = some number) :
    nearestDecimal number (point - count) = bits := by
  simp only [neighbour?, decide_eq_true_eq] at found
  split_ifs at found with nearer below above
  · exact Option.some.inj found ▸ nearer
  · exact Option.some.inj found ▸ below
  · exact Option.some.inj found ▸ above

/-- The shortest decimal of a double reads back as that double. -/
theorem shortest_readsBack {significand : ℕ} {exponent : ℤ}
    (isSignificand : IsSignificand significand exponent) (nonzero : significand ≠ 0) :
    ∃ number power, shortest significand exponent = Digits.ofScaled number power ∧
      nearestDecimal number power = (exponent + 1074).toNat * 2 ^ 52 + significand := by
  have ratio := scale_ratio significand 1 (-exponent)
  rw [Nat.cast_one, div_one, zpow_neg, div_inv_eq_mul] at ratio
  have positive := scale_snd_pos significand one_pos (-exponent)
  unfold shortest
  generalize scale significand 1 (-exponent) = scaled at ratio positive
  obtain ⟨numerator, denominator⟩ := scaled
  have bits := nearest_of_eq isSignificand nonzero positive ratio
  simp only [bits]
  generalize point_eq : pointOf numerator denominator = point
  -- Fewer digits are only taken if they read back; otherwise seventeen are, which always do.
  cases found : (List.range 16).findSome? fun fewer =>
      (neighbour? ((exponent + 1074).toNat * 2 ^ 52 + significand) numerator denominator point
        (fewer + 1)).map (Digits.ofScaled · (point - ↑(fewer + 1))) with
  | some digits =>
    obtain ⟨fewer, -, some_eq⟩ := List.exists_of_findSome?_eq_some found
    obtain ⟨number, number_eq, digits_eq⟩ := Option.map_eq_some_iff.mp some_eq
    exact ⟨number, _, digits_eq.symm, neighbour?_readsBack number_eq⟩
  | none =>
    have least := isSignificand.zpow_le nonzero
    have greatest := isSignificand.le_zpow
    have unit_pos : (0 : ℚ) < 2 ^ exponent := zpow_pos two_pos _
    have numerator_ne : numerator ≠ 0 := by
      rintro rfl
      have : (0 : ℚ) < 2 ^ (-1074 : ℤ) := zpow_pos two_pos _
      simp only [Nat.cast_zero, zero_div] at ratio
      linarith
    have zpow_le := zpow_pointOf_le numerator_ne positive (ratio ▸ least) (by linarith)
    have rounds := roundsTo_divideToEven (scaleTen numerator denominator (point - 17)).1
      (scaleTen_snd_pos numerator positive (point - 17))
    rw [scaleTen_ratio, ratio] at rounds
    rw [ratio, point_eq] at zpow_le
    exact ⟨_, _, rfl, nearestDecimal_seventeen isSignificand nonzero zpow_le rounds⟩

end Scriptlet.Decimal
