import Mathlib
import Scriptlet.Proofs.Decimal.Shortest

/-! # The bits of a double

The reading of a double determines it: its sign, exponent and significand give its bits back, and
there is one double that is not a number.

Main statements:

* `ofBits_toBits`: the bits of a double determine it.
* `of_read_finite`, `of_read_infinity`, `of_read_nan`: the reading of a double determines it. -/

namespace Scriptlet.Decimal

open Float.Model (Format)
open Float.Model.UnpackedFloat

/-! ## Fields of bits -/

section Fields

variable (bits : BitVec Format.binary64.numBits)

/-- The mantissa is in the lowest bits. -/
theorem toNat_unpackMantissa : (unpackMantissa bits).toNat = bits.toNat % 2 ^ 52 := by
  simp [unpackMantissa, BitVec.extractLsb_toNat]

/-- The exponent is in the bits between mantissa and sign. -/
theorem toNat_unpackExponent :
    (unpackExponent bits).toNat = bits.toNat / 2 ^ 52 % 2 ^ 11 := by
  simp [unpackExponent, BitVec.extractLsb_toNat, Nat.shiftRight_eq_div_pow]

/-- The sign is the highest bit. -/
theorem toNat_unpackSign : (unpackSign bits).toNat = bits.toNat / 2 ^ 63 := by
  have := bits.isLt
  simp only [unpackSign, BitVec.extractLsb, BitVec.extractLsb', BitVec.toNat_cast,
    BitVec.toNat_ofNat, Nat.shiftRight_eq_div_pow]
  norm_num at this ⊢
  omega

end Fields

/-- The bits of a double are put together from sign, exponent and mantissa. -/
theorem toNat_packComponents (sign : Sign) (exponent : BitVec 11) (mantissa : BitVec 52) :
    (packComponents .binary64 sign exponent mantissa).toNat =
      sign.toBitVec.toNat * 2 ^ 63 + exponent.toNat * 2 ^ 52 + mantissa.toNat := by
  simp only [packComponents, BitVec.toNat_append]
  rw [← Nat.shiftLeft_add_eq_or_of_lt mantissa.isLt, ← Nat.shiftLeft_add_eq_or_of_lt exponent.isLt]
  simp only [Nat.shiftLeft_eq]
  ring

/-- A sign is its bit. -/
theorem toBitVec_ofBitVec (sign : BitVec 1) : (Sign.ofBitVec sign).toBitVec = sign := by
  revert sign
  decide

/-- Bits are put together again from their fields. -/
theorem packComponents_fields {bits : BitVec Format.binary64.numBits} {exponent : BitVec 11}
    {mantissa : BitVec 52} (exponent_eq : exponent.toNat = (unpackExponent bits).toNat)
    (mantissa_eq : mantissa.toNat = (unpackMantissa bits).toNat) :
    packComponents .binary64 (Sign.ofBitVec (unpackSign bits)) exponent mantissa = bits := by
  rw [toNat_unpackExponent] at exponent_eq
  rw [toNat_unpackMantissa] at mantissa_eq
  apply BitVec.eq_of_toNat_eq
  rw [toNat_packComponents, toBitVec_ofBitVec, toNat_unpackSign, exponent_eq, mantissa_eq]
  omega

/-- Bits that stand for a double are put together again from what they stand for. -/
theorem pack_unpack {bits : BitVec Format.binary64.numBits}
    (valid : Format.binary64.Valid bits) : pack .binary64 (unpack .binary64 bits) = bits := by
  have mantissa_lt : (unpackMantissa bits).toNat < 2 ^ 52 := (unpackMantissa bits).isLt
  have exponent_lt : (unpackExponent bits).toNat < 2 ^ 11 := (unpackExponent bits).isLt
  have bias : ((Format.binary64.exponentBias : ℕ) : ℤ) = 1023 := rfl
  have implicit : ((Format.binary64.mantissaBitsWithoutImplicit : ℕ) : ℤ) = 52 := rfl
  have explicit : Format.binary64.mantissaBits = 53 := rfl
  -- What the fields stand for depends on the exponent being all ones, zero or neither.
  rw [unpack]
  split_ifs with all_ones no_mantissa no_exponent no_mantissa
  · exact packComponents_fields (by rw [all_ones]) (by rw [no_mantissa]; rfl)
  · exact (valid.eq_packedNaN all_ones no_mantissa).symm
  · exact packComponents_fields (by rw [no_exponent]; rfl) (by rw [no_mantissa]; rfl)
  · -- A subnormal number: its mantissa is too small to have an implicit bit.
    have exponent_eq : (unpackExponent bits).toNat = 0 := by rw [no_exponent]; rfl
    have size : ¬(unpackMantissa bits).toNat.log2 + 1 = 53 := by
      intro size
      have nonzero : (unpackMantissa bits).toNat ≠ 0 := fun zero =>
        no_mantissa (BitVec.eq_of_toNat_eq zero)
      have := (Nat.le_log2 nonzero).mp (show 52 ≤ _ by omega)
      omega
    simp only [pack, exponent_eq, bias, implicit, explicit]
    rw [if_neg (by decide), if_neg size]
    refine packComponents_fields (by rw [no_exponent]) ?_
    rw [BitVec.toNat_ofNat, Nat.mod_eq_of_lt mantissa_lt]
  · -- A normal number: the implicit bit makes the size of the mantissa.
    have exponent_ne : (unpackExponent bits).toNat ≠ 2 ^ 11 - 1 := fun ones =>
      all_ones (BitVec.eq_of_toNat_eq ones)
    have whole : (1#1 ++ unpackMantissa bits).toNat = 2 ^ 52 + (unpackMantissa bits).toNat := by
      rw [BitVec.toNat_append, ← Nat.shiftLeft_add_eq_or_of_lt (unpackMantissa bits).isLt]
      rfl
    have size : (1#1 ++ unpackMantissa bits).toNat.log2 + 1 = 53 := by
      have nonzero : (1#1 ++ unpackMantissa bits).toNat ≠ 0 := by omega
      have := (Nat.le_log2 nonzero).mpr (show 2 ^ 52 ≤ _ by omega)
      have := (Nat.log2_lt nonzero).mpr (show _ < 2 ^ 53 by omega)
      omega
    have biased : (((unpackExponent bits).toNat : ℤ) - (1023 + 52) + 1023 + 52).toNat =
        (unpackExponent bits).toNat := by omega
    simp only [pack, bias, implicit, explicit, biased, size]
    rw [if_neg (by show ¬2 ^ 11 ≤ _; omega), if_pos trivial]
    refine packComponents_fields ?_ ?_
    · rw [BitVec.toNat_ofNat, Nat.mod_eq_of_lt exponent_lt]
    · rw [BitVec.toNat_ofNat, whole]
      show (2 ^ 52 + (unpackMantissa bits).toNat) % 2 ^ 52 = _
      omega

/-- The bits of a double determine it. -/
theorem ofBits_toBits (number : Float) : Float.ofBits number.toBits = number := by
  obtain ⟨⟨bits, valid⟩⟩ := number
  simp only [Float.ofBits, Float.toBits, Float.Model.ofBits, Float.Model.pack, pack_unpack valid]

/-! ## Readings -/

/-- A double is determined by its sign and its magnitude bits. -/
theorem ofMagnitude_eq {number : Float} {bits : ℕ} (same : bits = number.toBits.toNat % 2 ^ 63) :
    ofMagnitude (number.toBits.toNat / 2 ^ 63 = 1) bits = number := by
  have bits_lt := number.toBits.toNat_lt
  have whole : (if (number.toBits.toNat / 2 ^ 63 = 1 : Bool) then 2 ^ 63 + bits else bits) =
      number.toBits.toNat := by
    by_cases sign : number.toBits.toNat / 2 ^ 63 = 1
    · rw [if_pos (decide_eq_true sign)]
      omega
    · rw [if_neg (by simpa using sign)]
      omega
  rw [ofMagnitude, Nat.pow_eq, whole, UInt64.ofNat_toNat, ofBits_toBits]

/-- A finite double is put together again from its reading. -/
theorem of_read_finite {number : Float} {negative : Bool} {significand : ℕ} {exponent : ℤ}
    (reading : read number = .finite negative significand exponent) :
    IsSignificand significand exponent ∧
      ofMagnitude negative ((exponent + 1074).toNat * 2 ^ 52 + significand) = number := by
  have bits_lt := number.toBits.toNat_lt
  simp only [read, Nat.pow_eq] at reading
  split_ifs at reading with ones no_fraction no_field
  · obtain ⟨rfl, rfl, rfl⟩ := Reading.finite.inj reading
    refine ⟨⟨by omega, by omega, by omega, Or.inl rfl⟩, ofMagnitude_eq (by omega)⟩
  · obtain ⟨rfl, rfl, rfl⟩ := Reading.finite.inj reading
    refine ⟨⟨by omega, by omega, by omega, Or.inr (by omega)⟩, ofMagnitude_eq (by omega)⟩

/-- An infinite double is determined by its sign. -/
theorem of_read_infinity {number : Float} {negative : Bool}
    (reading : read number = .infinity negative) : ofMagnitude negative infinityBits = number := by
  have bits_lt := number.toBits.toNat_lt
  simp only [read, Nat.pow_eq] at reading
  split_ifs at reading with ones no_fraction
  obtain rfl := Reading.infinity.inj reading
  apply ofMagnitude_eq
  rw [infinityBits, Nat.pow_eq]
  omega

/-- One double is not a number. -/
theorem of_read_nan {number : Float} (reading : read number = .nan) : notANumber = number := by
  simp only [read, Nat.pow_eq] at reading
  split_ifs at reading with ones no_fraction
  have bits_eq : number.toBits.toBitVec = packedNaN .binary64 := by
    refine number.toModel.valid.eq_packedNaN ?_ fun none => no_fraction ?_
    · exact BitVec.eq_of_toNat_eq ((toNat_unpackExponent number.toBits.toBitVec).trans ones)
    · rw [← UInt64.toNat_toBitVec, ← toNat_unpackMantissa]
      exact congrArg BitVec.toNat none
  rw [notANumber, ← ofBits_toBits number]
  exact congrArg Float.ofBits (UInt64.toBitVec_inj.mp bits_eq).symm

end Scriptlet.Decimal
