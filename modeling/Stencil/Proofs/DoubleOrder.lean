import Mathlib
import Stencil.Proofs.Rounding

/-!
# The order of doubles

Comparisons of doubles are defined by what their bits stand for: signs, exponents and mantissas.
For magnitudes this is the order of the places, which are the bits without the sign. A double and
its magnitude are at the same place, so a magnitude is compared with a positive bound as their
places are.
-/

namespace Stencil

namespace Double

open Float.Model Float.Model.UnpackedFloat

/-- The place of the magnitude of a double. -/
def placeOf (number : Float) : Nat :=
  (number.toBits &&& 0x7FFFFFFFFFFFFFFF).toNat

/-- The sign of a double, as its model has it. -/
def signOf (number : Float) : Sign :=
  if number.toBits = number.toBits &&& 0x7FFFFFFFFFFFFFFF then .positive else .negative

theorem placeOf_eq (number : Float) :
    placeOf number = number.toBits.toNat % 0x8000000000000000 := by
  rw [placeOf, UInt64.toNat_and]
  exact Nat.and_two_pow_sub_one_eq_mod _ 63

theorem toNat_unpackMantissa (bits : UInt64) :
    (@unpackMantissa Format.binary64 bits.toBitVec).toNat =
      bits.toNat % 0x8000000000000000 % 0x10000000000000 := by
  rw [unpackMantissa, BitVec.toNat_cast, BitVec.extractLsb_toNat]
  simp

theorem toNat_unpackExponent (bits : UInt64) :
    (@unpackExponent Format.binary64 bits.toBitVec).toNat =
      bits.toNat % 0x8000000000000000 / 0x10000000000000 := by
  rw [unpackExponent, BitVec.toNat_cast, BitVec.extractLsb_toNat]
  simp [Nat.shiftRight_eq_div_pow]
  omega

theorem ofBitVec_unpackSign (number : Float) :
    Sign.ofBitVec (@unpackSign Format.binary64 number.toBits.toBitVec) = signOf number := by
  have bounded := number.toBits.toNat_lt
  have bit : (@unpackSign Format.binary64 number.toBits.toBitVec).toNat =
      number.toBits.toNat / 0x8000000000000000 := by
    rw [unpackSign, BitVec.toNat_cast, BitVec.extractLsb_toNat]
    simp [Nat.shiftRight_eq_div_pow]
    omega
  have magnitude : (number.toBits &&& 0x7FFFFFFFFFFFFFFF).toNat =
      number.toBits.toNat % 0x8000000000000000 := placeOf_eq number
  refine if_congr ?_ rfl rfl
  rw [← BitVec.toNat_inj, bit, ← UInt64.toNat_inj, magnitude, BitVec.toNat_ofNat]
  omega

/-- The exponent of the values that are not finite. -/
theorem unpackExponent_eq_neg_one_iff (bits : UInt64) :
    @unpackExponent Format.binary64 bits.toBitVec = -1#_ ↔
      bits.toNat % 0x8000000000000000 / 0x10000000000000 = 2047 := by
  rw [← BitVec.toNat_inj, toNat_unpackExponent]
  rfl

theorem unpackExponent_eq_zero_iff (bits : UInt64) :
    @unpackExponent Format.binary64 bits.toBitVec = 0#_ ↔
      bits.toNat % 0x8000000000000000 / 0x10000000000000 = 0 := by
  rw [← BitVec.toNat_inj, toNat_unpackExponent]
  rfl

theorem unpackMantissa_eq_zero_iff (bits : UInt64) :
    @unpackMantissa Format.binary64 bits.toBitVec = 0#_ ↔
      bits.toNat % 0x8000000000000000 % 0x10000000000000 = 0 := by
  rw [← BitVec.toNat_inj, toNat_unpackMantissa]
  rfl

/-- A double is finite if its place is that of a number. -/
theorem isFinite_iff (number : Float) : number.isFinite = true ↔ placeOf number < limit := by
  have greatest := unpackExponent_eq_neg_one_iff number.toBits
  have small := Nat.mod_lt number.toBits.toNat (show 0x8000000000000000 > 0 by norm_num)
  rw [← placeOf_eq] at greatest small
  have opened : number.isFinite =
      (UnpackedFloat.unpack Format.binary64 number.toBits.toBitVec).isFinite := rfl
  rw [opened, UnpackedFloat.unpack, limit]
  by_cases infinite : placeOf number / 0x10000000000000 = 2047
  · rw [if_pos (greatest.mpr infinite)]
    split <;> simp [UnpackedFloat.isFinite] <;> omega
  · rw [if_neg (mt greatest.mp infinite)]
    split
    · split <;> simp [UnpackedFloat.isFinite] <;> omega
    · simp [UnpackedFloat.isFinite]
      omega

/-- Zero has a sign and nothing else. -/
theorem unpack_of_zero {number : Float} (zero : placeOf number = 0) :
    number.toModel.unpack = .zero (signOf number) := by
  have opened : number.toModel.unpack =
      UnpackedFloat.unpack Format.binary64 number.toBits.toBitVec := rfl
  rw [placeOf_eq] at zero
  have not_greatest := mt (unpackExponent_eq_neg_one_iff number.toBits).mp (by omega)
  have least := (unpackExponent_eq_zero_iff number.toBits).mpr (by omega)
  have no_mantissa := (unpackMantissa_eq_zero_iff number.toBits).mpr (by omega)
  rw [opened, UnpackedFloat.unpack]
  simp only [ofBitVec_unpackSign]
  rw [if_neg not_greatest, if_pos least, dif_pos no_mantissa]

/-- What a finite double is made of. -/
theorem unpack_of_pos {number : Float} (positive : 0 < placeOf number)
    (bounded : placeOf number < limit) :
    ∃ mantissa_pos, number.toModel.unpack = .finite (signOf number)
      (binaryAt (placeOf number)).mantissa (binaryAt (placeOf number)).exponent mantissa_pos := by
  have opened : number.toModel.unpack =
      UnpackedFloat.unpack Format.binary64 number.toBits.toBitVec := rfl
  have mantissa := toNat_unpackMantissa number.toBits
  have exponent := toNat_unpackExponent number.toBits
  have greatest := unpackExponent_eq_neg_one_iff number.toBits
  have least := unpackExponent_eq_zero_iff number.toBits
  have no_mantissa := unpackMantissa_eq_zero_iff number.toBits
  rw [← placeOf_eq] at mantissa exponent greatest least no_mantissa
  refine ⟨(binaryAt_bounds bounded).2.2.2.1 positive, ?_⟩
  rw [limit] at bounded
  rw [opened, UnpackedFloat.unpack]
  simp only [ofBitVec_unpackSign]
  rw [if_neg (mt greatest.mp (by omega))]
  by_cases small : placeOf number < 0x10000000000000
  · rw [if_pos (least.mpr (by omega)), dif_neg (mt no_mantissa.mp (by omega)),
      UnpackedFloat.finite.injEq, mantissa, exponent, binaryAt_of_small small]
    refine ⟨rfl, Nat.mod_eq_of_lt small, ?_⟩
    rw [Nat.div_eq_of_lt small]
    rfl
  · have fields := @binaryAt_of_fields (placeOf number / 0x10000000000000)
      (placeOf number % 0x10000000000000) (by omega) (by omega) (by omega)
    rw [Nat.div_add_mod'] at fields
    rw [if_neg (mt least.mp (by omega)), UnpackedFloat.finite.injEq, exponent, fields]
    refine ⟨rfl, ?_, rfl⟩
    rw [BitVec.toNat_append, mantissa, ← Nat.shiftLeft_add_eq_or_of_lt]
    · rfl
    · exact Nat.mod_lt _ (by norm_num)

/-! ## Magnitudes -/

/-- Every place below the limit is that of a double. -/
theorem exists_toBits {place : Nat} (bounded : place < limit) :
    ∃ magnitude : Float, magnitude.toBits.toNat = place := by
  rw [limit] at bounded
  have whole : place.toUInt64.toNat = place := by
    rw [UInt64.toNat_ofNat']
    omega
  have finite := mt (unpackExponent_eq_neg_one_iff place.toUInt64).mp (by omega)
  exact ⟨.ofModel ⟨place.toUInt64, ⟨fun infinite => absurd infinite finite⟩⟩, whole⟩

section

variable {magnitude : Float} {place : Nat} (bits : magnitude.toBits.toNat = place)
  (bounded : place < limit)

include bits bounded

theorem placeOf_of_bits : placeOf magnitude = place := by
  rw [limit] at bounded
  rw [placeOf_eq, bits]
  omega

theorem signOf_of_bits : signOf magnitude = .positive := by
  refine if_pos (UInt64.toNat_inj.mp ?_)
  exact bits.trans (placeOf_of_bits bits bounded).symm

end

/-- The magnitude of a finite double is the positive double at the same place. -/
theorem abs_eq {number magnitude : Float} (finite : placeOf number < limit)
    (bits : magnitude.toBits.toNat = placeOf number) : number.abs = magnitude := by
  have place := placeOf_of_bits bits finite
  have sign := signOf_of_bits bits finite
  have unpacked : number.toModel.unpack.abs = magnitude.toModel.unpack := by
    rcases Nat.eq_zero_or_pos (placeOf number) with zero | positive
    · rw [unpack_of_zero zero, unpack_of_zero (place.trans zero), sign]
      rfl
    · obtain ⟨_, parts⟩ := unpack_of_pos positive finite
      obtain ⟨_, magnitude_parts⟩ := unpack_of_pos (place.symm ▸ positive) (place.symm ▸ finite)
      rw [parts, magnitude_parts, UnpackedFloat.abs, UnpackedFloat.finite.injEq, sign, place]
      exact ⟨rfl, rfl, rfl⟩
  calc number.abs = .ofModel (.pack number.toModel.unpack.abs) := rfl
    _ = .ofBits magnitude.toBits := by rw [unpacked]; rfl
    _ = magnitude := Float.ofBits_toBits magnitude

theorem placeOf_abs {number : Float} (finite : placeOf number < limit) :
    placeOf number.abs = placeOf number := by
  obtain ⟨magnitude, bits⟩ := exists_toBits finite
  rw [abs_eq finite bits, placeOf_of_bits bits finite]

theorem signOf_abs {number : Float} (finite : placeOf number < limit) :
    signOf number.abs = .positive := by
  obtain ⟨magnitude, bits⟩ := exists_toBits finite
  rw [abs_eq finite bits, signOf_of_bits bits finite]

/-! ## Comparisons -/

/-- A double at a later place has a greater exponent, or the same one and a greater mantissa. -/
theorem binaryAt_lt {place other : Nat} (before : place < other) (bounded : other < limit) :
    (binaryAt place).exponent < (binaryAt other).exponent ∨
      (binaryAt place).exponent = (binaryAt other).exponent ∧
        (binaryAt place).mantissa < (binaryAt other).mantissa := by
  rw [limit] at bounded
  rcases @place_cases place (by omega) with
    small | ⟨biased, fraction, normal, fits, fraction_fits, rfl⟩ <;>
  rcases @place_cases other (by omega) with
    other_small | ⟨other_biased, other_fraction, other_normal, other_fits, other_fraction_fits, rfl⟩
  · rw [binaryAt_of_small small, binaryAt_of_small other_small]
    exact .inr ⟨rfl, before⟩
  · rw [binaryAt_of_small small, binaryAt_of_fields other_normal other_fits other_fraction_fits]
    simp only
    omega
  · omega
  · rw [binaryAt_of_fields normal fits fraction_fits,
      binaryAt_of_fields other_normal other_fits other_fraction_fits]
    simp only
    omega

/-- Doubles are ordered by their exponents and then by their mantissas as their places are. -/
theorem compare_binaryAt {place other : Nat} (bounded : place < limit)
    (other_bounded : other < limit) :
    (compare (binaryAt place).exponent (binaryAt other).exponent).then
      (compare (binaryAt place).mantissa (binaryAt other).mantissa) = compare place other := by
  rcases lt_trichotomy place other with before | rfl | behind
  · rw [compare_lt_iff_lt.mpr before]
    rcases binaryAt_lt before other_bounded with less | ⟨equal, less⟩
    · rw [compare_lt_iff_lt.mpr less]
      rfl
    · rw [compare_eq_iff_eq.mpr equal, compare_lt_iff_lt.mpr less]
      rfl
  · rw [compare_eq_iff_eq.mpr rfl, compare_eq_iff_eq.mpr rfl, compare_eq_iff_eq.mpr rfl]
    rfl
  · rw [compare_gt_iff_gt.mpr behind]
    rcases binaryAt_lt behind bounded with greater | ⟨equal, greater⟩
    · rw [compare_gt_iff_gt.mpr greater]
      rfl
    · rw [compare_eq_iff_eq.mpr equal.symm, compare_gt_iff_gt.mpr greater]
      rfl

/-- Magnitudes are compared as their places are. -/
theorem compare_of_positive {number bound : Float} (number_sign : signOf number = .positive)
    (bound_sign : signOf bound = .positive) (number_finite : placeOf number < limit)
    (bound_finite : placeOf bound < limit) :
    number.toModel.unpack.compare bound.toModel.unpack =
      some (compare (placeOf number) (placeOf bound)) := by
  rcases Nat.eq_zero_or_pos (placeOf number) with number_zero | number_pos <;>
  rcases Nat.eq_zero_or_pos (placeOf bound) with bound_zero | bound_pos
  · rw [unpack_of_zero number_zero, unpack_of_zero bound_zero, number_zero, bound_zero]
    rfl
  · obtain ⟨mantissa_pos, parts⟩ := unpack_of_pos bound_pos bound_finite
    rw [unpack_of_zero number_zero, parts, bound_sign, number_zero, compare_lt_iff_lt.mpr bound_pos]
    rfl
  · obtain ⟨mantissa_pos, parts⟩ := unpack_of_pos number_pos number_finite
    rw [unpack_of_zero bound_zero, parts, number_sign, bound_zero, compare_gt_iff_gt.mpr number_pos]
    rfl
  · obtain ⟨mantissa_pos, parts⟩ := unpack_of_pos number_pos number_finite
    obtain ⟨bound_mantissa_pos, bound_parts⟩ := unpack_of_pos bound_pos bound_finite
    rw [parts, bound_parts, number_sign, bound_sign, ← compare_binaryAt number_finite bound_finite]
    rfl

variable {number bound : Float} (finite : placeOf number < limit)

include finite

/-- A magnitude is less than a bound if its place is. -/
theorem abs_lt_iff (bound_sign : signOf bound = .positive) (bound_finite : placeOf bound < limit) :
    number.abs < bound ↔ placeOf number < placeOf bound := by
  have compared := compare_of_positive (signOf_abs finite) bound_sign
    (by rw [placeOf_abs finite]; exact finite) bound_finite
  rw [placeOf_abs finite] at compared
  have opened : number.abs < bound ↔
    (number.abs.toModel.unpack.compare bound.toModel.unpack == some .lt) = true :=
    decide_eq_true_iff
  rw [opened, compared, beq_iff_eq, Option.some.injEq, compare_lt_iff_lt]

theorem le_abs_iff (bound_sign : signOf bound = .positive) (bound_finite : placeOf bound < limit) :
    bound ≤ number.abs ↔ placeOf bound ≤ placeOf number := by
  have compared := compare_of_positive bound_sign (signOf_abs finite) bound_finite
    (by rw [placeOf_abs finite]; exact finite)
  rw [placeOf_abs finite] at compared
  have opened : bound ≤ number.abs ↔
    (bound.toModel.unpack.compare number.abs.toModel.unpack).any (·.isLE) = true :=
    decide_eq_true_iff
  rw [opened, compared, Option.any_some, Nat.isLE_compare]

theorem beq_zero_iff : (number == 0) = true ↔ placeOf number = 0 := by
  have opened : (number == 0) =
    (number.toModel.unpack.compare (0 : Float).toModel.unpack == some .eq) := rfl
  have zero : (0 : Float).toModel.unpack = .zero .positive := rfl
  rw [opened, zero]
  rcases Nat.eq_zero_or_pos (placeOf number) with here | positive
  · rw [unpack_of_zero here]
    simp [UnpackedFloat.compare, here]
  · obtain ⟨mantissa_pos, parts⟩ := unpack_of_pos positive finite
    rw [parts]
    cases signOf number <;> simp [UnpackedFloat.compare, positive.ne']

theorem lt_zero_iff (positive : 0 < placeOf number) :
    number < 0 ↔ number.toBits ≠ number.toBits &&& 0x7FFFFFFFFFFFFFFF := by
  have opened : number < 0 ↔
    (number.toModel.unpack.compare (0 : Float).toModel.unpack == some .lt) = true :=
    decide_eq_true_iff
  have zero : (0 : Float).toModel.unpack = .zero .positive := rfl
  obtain ⟨mantissa_pos, parts⟩ := unpack_of_pos positive finite
  rw [opened, zero, parts, signOf]
  split
  · next same => exact iff_of_false Bool.false_ne_true (not_not.mpr same)
  · next other => exact iff_of_true rfl other

end Double

end Stencil
