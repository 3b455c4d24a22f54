import Mathlib.Algebra.Order.Field.Power
import Mathlib.Data.Rat.Cast.Order
import Mathlib.Tactic.FieldSimp
import Mathlib.Tactic.Linarith
import Mathlib.Tactic.LinearCombination
import Mathlib.Tactic.Positivity
import Mathlib.Tactic.Ring
import Stencil.Decimal.Shortest

/-!
# Rounding to doubles

The doubles from zero on are counted by their bits, so that the next double is at the next place.
`Rounds` says which numbers read back as the double at a place, and `holds_iff` that the windows of
the digit search show exactly these numbers.
-/

namespace Stencil

/-- The number that a binary value is. -/
def Binary.toRat (binary : Binary) : ℚ :=
  binary.mantissa * 2 ^ binary.exponent

namespace Double

/-- The double at a place in the ascending order of all doubles from zero on. -/
def binaryAt (place : Nat) : Binary :=
  Binary.ofBits place.toUInt64

/-- The place behind the last finite double. -/
def limit : Nat := 0x7FF0000000000000

/-- The number that the double at a place is. -/
def valueAt (place : Nat) : ℚ :=
  (binaryAt place).toRat

/-- The number in the middle between a double and the next one. -/
def halfway (place : Nat) : ℚ :=
  (valueAt place + valueAt (place + 1)) / 2

/--
A number is rounded to the nearest double, and from the middle between two of them to the one at an
even place.
-/
def Rounds (number : ℚ) (place : Nat) : Prop :=
  if place % 2 = 0 then halfway (place - 1) ≤ number ∧ number ≤ halfway place
  else halfway (place - 1) < number ∧ number < halfway place

theorem toNat_fields {place : Nat} (bounded : place < 0x8000000000000000) :
    ((place.toUInt64 >>> 52) &&& 0x7FF).toNat = place / 0x10000000000000 ∧
      (place.toUInt64 &&& 0xFFFFFFFFFFFFF).toNat = place % 0x10000000000000 := by
  have whole : place.toUInt64.toNat = place := by
    rw [UInt64.toNat_ofNat']
    omega
  have high := Nat.and_two_pow_sub_one_eq_mod (place / 0x10000000000000) 11
  have low := Nat.and_two_pow_sub_one_eq_mod place 52
  constructor
  · rw [UInt64.toNat_and, UInt64.toNat_shiftRight, whole]
    simp [Nat.shiftRight_eq_div_pow] at high ⊢
    omega
  · rw [UInt64.toNat_and, whole]
    simpa using low

/-- The doubles below the least normal one. -/
theorem binaryAt_of_small {place : Nat} (small : place < 0x10000000000000) :
    binaryAt place = ⟨place, -1074, false⟩ := by
  obtain ⟨biased, fraction⟩ := @toNat_fields place (by omega)
  have no_exponent : place / 0x10000000000000 = 0 := by omega
  have all_fraction : place % 0x10000000000000 = place := by omega
  simp only [binaryAt, Binary.ofBits, biased, fraction, no_exponent, all_fraction, ↓reduceIte]

/-- The normal doubles. -/
theorem binaryAt_of_fields {biased fraction : Nat} (normal : 0 < biased) (bounded : biased < 0x800)
    (fits : fraction < 0x10000000000000) :
    binaryAt (biased * 0x10000000000000 + fraction) =
      ⟨0x10000000000000 + fraction, biased - 1075, fraction = 0 && 1 < biased⟩ := by
  obtain ⟨high, low⟩ := @toNat_fields (biased * 0x10000000000000 + fraction) (by omega)
  have exponent_field : (biased * 0x10000000000000 + fraction) / 0x10000000000000 = biased := by
    omega
  have fraction_field :
      (biased * 0x10000000000000 + fraction) % 0x10000000000000 = fraction := by
    omega
  rw [exponent_field] at high
  rw [fraction_field] at low
  simp only [binaryAt, Binary.ofBits, high, low, if_neg normal.ne']

/-- A place is that of a small double or that of a normal one. -/
theorem place_cases {place : Nat} (bounded : place < 0x8000000000000000) :
    place < 0x10000000000000 ∨ ∃ biased fraction, 0 < biased ∧ biased < 0x800 ∧
      fraction < 0x10000000000000 ∧ place = biased * 0x10000000000000 + fraction := by
  by_cases small : place < 0x10000000000000
  · exact .inl small
  · refine .inr ⟨place / 0x10000000000000, place % 0x10000000000000, ?_, ?_, ?_, ?_⟩ <;> omega

/-- What is known about the parts of a double. -/
theorem binaryAt_bounds {place : Nat} (bounded : place < limit) :
    (binaryAt place).mantissa < 0x20000000000000 ∧
    ((binaryAt place).narrowBelow → (binaryAt place).mantissa = 0x10000000000000) ∧
    (binaryAt place).mantissa % 2 = place % 2 ∧
    (0 < place → 0 < (binaryAt place).mantissa) ∧
    -1074 ≤ (binaryAt place).exponent ∧ (binaryAt place).exponent ≤ 971 := by
  rw [limit] at bounded
  rcases @place_cases place (by omega) with
    small | ⟨biased, fraction, normal, fits, fraction_fits, rfl⟩
  · rw [binaryAt_of_small small]
    simp
    omega
  · rw [binaryAt_of_fields normal fits fraction_fits]
    simp
    omega

/-- The next double is one unit of the last bit away, which is narrower only right below a power. -/
theorem binaryAt_succ {place : Nat} (bounded : place < limit) :
    valueAt (place + 1) = valueAt place + 2 ^ (binaryAt place).exponent ∧
    (binaryAt place).exponent =
      (binaryAt (place + 1)).exponent - if (binaryAt (place + 1)).narrowBelow then 1 else 0 := by
  rw [limit] at bounded
  rw [valueAt, valueAt, Binary.toRat, Binary.toRat]
  rcases @place_cases place (by omega) with
    small | ⟨biased, fraction, normal, fits, fraction_fits, rfl⟩
  · by_cases last : place + 1 < 0x10000000000000
    · rw [binaryAt_of_small small, binaryAt_of_small last]
      refine ⟨?_, rfl⟩
      generalize (2 : ℚ) ^ (-1074 : Int) = unit
      push_cast
      ring
    · have next : place + 1 = 1 * 0x10000000000000 + 0 := by omega
      have same : place = 0xFFFFFFFFFFFFF := by omega
      rw [next, binaryAt_of_small small, binaryAt_of_fields (by omega) (by omega) (by omega), same]
      have least : ((1 : Nat) : Int) - 1075 = -1074 := rfl
      refine ⟨?_, rfl⟩
      simp only [least]
      generalize (2 : ℚ) ^ (-1074 : Int) = unit
      push_cast
      ring
  · by_cases last : fraction + 1 < 0x10000000000000
    · rw [Nat.add_assoc, binaryAt_of_fields normal fits fraction_fits,
        binaryAt_of_fields normal fits last]
      refine ⟨?_, by simp⟩
      push_cast
      ring
    · have next : biased * 0x10000000000000 + fraction + 1 =
          (biased + 1) * 0x10000000000000 + 0 := by omega
      have same : fraction = 0xFFFFFFFFFFFFF := by omega
      have larger : 1 < biased + 1 := by omega
      rw [next, binaryAt_of_fields normal fits fraction_fits,
        binaryAt_of_fields (by omega) (by omega) (by omega), same]
      have power : (2 : ℚ) ^ ((biased + 1 : Nat) - 1075 : Int) = 2 * 2 ^ (biased - 1075 : Int) := by
        rw [← zpow_one_add₀ (by norm_num)]
        congr 1
        push_cast
        ring
      refine ⟨?_, ?_⟩
      · simp only [power]
        push_cast
        ring
      · simp [normal]
        ring

theorem valueAt_nonneg (place : Nat) : 0 ≤ valueAt place := by
  rw [valueAt, Binary.toRat]
  positivity

theorem valueAt_lt_succ {place : Nat} (bounded : place < limit) :
    valueAt place < valueAt (place + 1) := by
  rw [(binaryAt_succ bounded).1]
  exact lt_add_of_pos_right _ (by positivity)

/-- The order of the places is the order of the numbers. -/
theorem valueAt_lt {place other : Nat} (before : place < other) (bounded : other ≤ limit) :
    valueAt place < valueAt other := by
  induction other, before using Nat.le_induction with
  | base => exact valueAt_lt_succ bounded
  | succ between _ ih => exact (ih (by omega)).trans (valueAt_lt_succ bounded)

theorem halfway_lt {place other : Nat} (before : place < other) (bounded : other < limit) :
    halfway place < halfway other := by
  have here := valueAt_lt before (by omega)
  have next := valueAt_lt (Nat.succ_lt_succ before) (by omega)
  rw [halfway, halfway]
  linarith

namespace Rounds

variable {number other : ℚ} {place greater : Nat}

theorem le (rounds : Rounds number place) :
    halfway (place - 1) ≤ number ∧ number ≤ halfway place := by
  rw [Rounds] at rounds
  split at rounds
  · exact rounds
  · exact ⟨rounds.1.le, rounds.2.le⟩

theorem of_lt (above : halfway (place - 1) < number) (below : number < halfway place) :
    Rounds number place := by
  rw [Rounds]
  split
  · exact ⟨above.le, below.le⟩
  · exact ⟨above, below⟩

theorem lt_of_odd (rounds : Rounds number place) (odd : place % 2 = 1) :
    halfway (place - 1) < number ∧ number < halfway place := by
  rw [Rounds, if_neg (by omega)] at rounds
  exact rounds

/-- Numbers that are rounded to a double lie below all that are rounded to a greater one. -/
theorem lt (first : Rounds number place) (second : Rounds other greater) (before : place < greater)
    (bounded : greater < limit) : number < other := by
  by_cases adjacent : greater = place + 1
  · -- The two intervals touch, and only one of them contains the end.
    subst adjacent
    rcases Nat.mod_two_eq_zero_or_one place with even | odd
    · exact first.le.2.trans_lt (second.lt_of_odd (by omega)).1
    · exact (first.lt_of_odd odd).2.trans_le second.le.1
  · calc number ≤ halfway place := first.le.2
      _ < halfway (greater - 1) := halfway_lt (by omega) (by omega)
      _ ≤ other := second.le.1

/-- What lies between a double and a number that is rounded to it is rounded to it as well. -/
theorem between (rounds : Rounds number place) (positive : 0 < place) (bounded : place < limit)
    (inside : number ≤ other ∧ other ≤ valueAt place ∨ valueAt place ≤ other ∧ other ≤ number) :
    Rounds other place := by
  obtain ⟨before, rfl⟩ : ∃ before, place = before + 1 := ⟨place - 1, by omega⟩
  have below := @valueAt_lt_succ before (by omega)
  have above := valueAt_lt_succ bounded
  have lower : halfway before < valueAt (before + 1) := by
    rw [halfway]
    linarith
  have upper : valueAt (before + 1) < halfway (before + 1) := by
    rw [halfway]
    linarith
  rw [Rounds] at rounds ⊢
  split <;> rename_i parity <;> simp only [parity, ↓reduceIte, Nat.add_sub_cancel] at rounds ⊢ <;>
    rcases inside with ⟨first, second⟩ | ⟨first, second⟩ <;> constructor <;> linarith

/-- Only zero is read back from a numeral for zero. -/
theorem pos (rounds : Rounds number place) (positive : 0 < place) (bounded : place < limit) :
    0 < number := by
  have first : 0 ≤ valueAt (place - 1) := valueAt_nonneg _
  have second : valueAt (place - 1) < valueAt (place - 1 + 1) := valueAt_lt_succ (by omega)
  have above := rounds.le.1
  rw [halfway] at above
  linarith

end Rounds

end Double

/-- A power is split into its positive and its negative part. -/
theorem raise_eq (base : Nat) (positive : 0 < base) (power : Int) :
    (raise base power : ℚ) = base ^ power * raise base (-power) := by
  have nonzero : (base : ℚ) ≠ 0 := by positivity
  rw [raise, raise, Nat.pow_eq, Nat.pow_eq]
  push_cast
  rw [← zpow_natCast, ← zpow_natCast, ← zpow_add₀ nonzero]
  congr 1
  omega

theorem raise_pos (base : Nat) (positive : 0 < base) (power : Int) : 0 < raise base power :=
  Nat.pow_pos positive

namespace Double

variable {place : Nat}

theorem two_zpow_eq (exponent : Int) : (2 : ℚ) ^ exponent = 4 * 2 ^ (exponent - 2) := by
  rw [zpow_sub₀ (by norm_num)]
  ring

/-- A double, counted in quarters of its last bit. -/
theorem valueAt_eq (place : Nat) :
    valueAt place = 4 * (binaryAt place).mantissa * 2 ^ ((binaryAt place).exponent - 2) := by
  rw [valueAt, Binary.toRat, two_zpow_eq]
  ring

/-- The upper end of the numbers that are rounded to a double, in quarters of its last bit. -/
theorem halfway_eq (bounded : place < limit) :
    halfway place =
      (4 * (binaryAt place).mantissa + 2) * 2 ^ ((binaryAt place).exponent - 2) := by
  rw [halfway, (binaryAt_succ bounded).1, valueAt_eq, two_zpow_eq (binaryAt place).exponent]
  ring

/-- The lower end of the numbers that are rounded to a double, in quarters of its last bit. -/
theorem halfway_pred_eq (positive : 0 < place) (bounded : place < limit) :
    halfway (place - 1) =
      (4 * (binaryAt place).mantissa - if (binaryAt place).narrowBelow then 1 else 2) *
        2 ^ ((binaryAt place).exponent - 2) := by
  obtain ⟨before, rfl⟩ : ∃ before, place = before + 1 := ⟨place - 1, by omega⟩
  obtain ⟨step, exponent⟩ := @binaryAt_succ before (by omega)
  have middle : halfway before = valueAt (before + 1) - 2 ^ (binaryAt before).exponent / 2 := by
    rw [halfway, step]
    ring
  rw [Nat.add_sub_cancel, middle, valueAt_eq, exponent]
  split
  · rw [two_zpow_eq (_ - 1), sub_right_comm, zpow_sub_one₀ (by norm_num)]
    ring
  · rw [sub_zero, two_zpow_eq (binaryAt (before + 1)).exponent]
    ring

/-- The window of a double shows the numbers that are rounded to it, all in one unit. -/
theorem window_scaled (positive : 0 < place) (bounded : place < limit) (grid : Int) :
    ∃ unit : ℚ, 0 < unit ∧
      ((Window.ofBinary (binaryAt place) grid).low : ℚ) = halfway (place - 1) * unit ∧
      ((Window.ofBinary (binaryAt place) grid).value : ℚ) = valueAt place * unit ∧
      ((Window.ofBinary (binaryAt place) grid).high : ℚ) = halfway place * unit ∧
      ((Window.ofBinary (binaryAt place) grid).unit : ℚ) = 10 ^ grid * unit := by
  have mantissa_pos := (binaryAt_bounds bounded).2.2.2.1 positive
  have lower := halfway_pred_eq positive bounded
  have upper := halfway_eq bounded
  have value := valueAt_eq place
  generalize binaryAt place = binary at *
  have two := raise_eq 2 (by norm_num) (2 - binary.exponent)
  have ten := raise_eq 10 (by norm_num) grid
  rw [neg_sub] at two
  push_cast at two ten
  have two_pos : (0 : ℚ) < raise 2 (binary.exponent - 2) := by
    exact_mod_cast raise_pos 2 (by norm_num) _
  have ten_pos : (0 : ℚ) < raise 10 (-grid) := by exact_mod_cast raise_pos 10 (by norm_num) _
  have cancel : (2 : ℚ) ^ (binary.exponent - 2) * 2 ^ (2 - binary.exponent) = 1 := by
    rw [← zpow_add₀ (by norm_num)]
    simp
  have subtracted : ((4 * binary.mantissa - if binary.narrowBelow then 1 else 2 : Nat) : ℚ) =
      4 * binary.mantissa - if binary.narrowBelow then 1 else 2 := by
    rw [Nat.cast_sub (by split <;> omega)]
    split <;> push_cast <;> ring
  have in_quarters (count factor : ℚ) : count * 2 ^ (binary.exponent - 2) *
      (2 ^ (2 - binary.exponent) * factor) = count * factor := by
    linear_combination (count * factor) * cancel
  refine ⟨2 ^ (2 - binary.exponent) * (raise 2 (binary.exponent - 2) * raise 10 (-grid)),
    by positivity, ?_, ?_, ?_, ?_⟩
  · rw [lower, in_quarters, ← subtracted, Window.ofBinary]
    push_cast
    rfl
  · rw [value, in_quarters, Window.ofBinary]
    push_cast
    rfl
  · rw [upper, in_quarters, Window.ofBinary]
    push_cast
    rfl
  · rw [Window.ofBinary]
    push_cast
    rw [two, ten]
    ring

/-- A number of grid steps reads back as a double exactly if it is rounded to it. -/
theorem holds_iff (positive : 0 < place) (bounded : place < limit) (grid : Int) (steps : Nat) :
    (Window.ofBinary (binaryAt place) grid).holds steps = true ↔
      Rounds (steps * 10 ^ grid) place := by
  obtain ⟨unit, unit_pos, low, _, high, width⟩ := window_scaled positive bounded grid
  have closed : (Window.ofBinary (binaryAt place) grid).closed = decide (place % 2 = 0) := by
    rw [← (binaryAt_bounds bounded).2.2.1]
    rfl
  have scaled : ((steps * (Window.ofBinary (binaryAt place) grid).unit : Nat) : ℚ) =
      steps * 10 ^ grid * unit := by
    push_cast
    rw [width]
    ring
  generalize Window.ofBinary (binaryAt place) grid = window at *
  have low_le : window.low ≤ steps * window.unit ↔ halfway (place - 1) ≤ steps * 10 ^ grid := by
    rw [← mul_le_mul_iff_left₀ unit_pos, ← low, ← scaled, Nat.cast_le]
  have le_high : steps * window.unit ≤ window.high ↔ steps * 10 ^ grid ≤ halfway place := by
    rw [← mul_le_mul_iff_left₀ unit_pos, ← high, ← scaled, Nat.cast_le]
  have low_lt : window.low < steps * window.unit ↔ halfway (place - 1) < steps * 10 ^ grid := by
    rw [← mul_lt_mul_iff_left₀ unit_pos, ← low, ← scaled, Nat.cast_lt]
  have lt_high : steps * window.unit < window.high ↔ steps * 10 ^ grid < halfway place := by
    rw [← mul_lt_mul_iff_left₀ unit_pos, ← high, ← scaled, Nat.cast_lt]
  rw [Window.holds, Rounds, closed, ← low_le, ← le_high, ← low_lt, ← lt_high]
  by_cases even : place % 2 = 0 <;> simp [even]

end Double

end Stencil
