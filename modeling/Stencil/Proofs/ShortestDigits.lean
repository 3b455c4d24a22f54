import Stencil.Decimal.Layout
import Stencil.Proofs.Rounding

/-!
# The shortest digits of a double

`Decimal.IsShortest` says what the digits of a double are supposed to be: they read back as the
double, no decimal with fewer digits does, and no other one with as few digits is closer. The search
from coarse to fine grids finds such digits for every finite double.
-/

namespace Stencil

/-- The number that a decimal is. -/
def Decimal.toRat (decimal : Decimal) : ℚ :=
  decimal.coefficient * 10 ^ decimal.exponent

open Double

/-! ## The size of a double -/

theorem Binary.below_iff (binary : Binary) (power : Int) :
    binary.below power = true ↔ binary.toRat < 10 ^ power := by
  have two := raise_eq 2 (by norm_num) binary.exponent
  have ten := raise_eq 10 (by norm_num) power
  push_cast at two ten
  have factor_pos : (0 : ℚ) < raise 2 (-binary.exponent) * raise 10 (-power) := by
    exact_mod_cast Nat.mul_pos (raise_pos 2 (by norm_num) _) (raise_pos 10 (by norm_num) _)
  have left : ((binary.mantissa * raise 2 binary.exponent * raise 10 (-power) : Nat) : ℚ) =
      binary.toRat * (raise 2 (-binary.exponent) * raise 10 (-power)) := by
    push_cast
    rw [toRat, two]
    ring
  have right : ((raise 10 power * raise 2 (-binary.exponent) : Nat) : ℚ) =
      10 ^ power * (raise 2 (-binary.exponent) * raise 10 (-power)) := by
    push_cast
    rw [ten]
    ring
  rw [below, decide_eq_true_eq, ← mul_lt_mul_iff_left₀ factor_pos, ← left, ← right, Nat.cast_lt]

theorem ten_zpow_le_two_zpow_of_nonneg {tens twos : Int} (up : 0 ≤ tens)
    (enough : 196 * tens ≤ 59 * twos) : (10 : ℚ) ^ tens ≤ 2 ^ twos := by
  refine le_of_pow_le_pow_left₀ (n := 59) (by norm_num) (by positivity) ?_
  calc ((10 : ℚ) ^ tens) ^ 59 = (10 ^ 59) ^ tens := by
        rw [← zpow_natCast, zpow_comm, zpow_natCast]
    _ ≤ (2 ^ 196) ^ tens := zpow_le_zpow_left₀ up (by positivity) (by norm_num)
    _ = 2 ^ (196 * tens) := by rw [zpow_mul]; rfl
    _ ≤ 2 ^ (59 * twos) := zpow_le_zpow_right₀ (by norm_num) enough
    _ = (2 ^ twos) ^ 59 := by rw [mul_comm, zpow_mul]; rfl

theorem two_zpow_le_ten_zpow_of_nonneg {tens twos : Int} (up : 0 ≤ tens)
    (enough : 28 * twos ≤ 93 * tens) : (2 : ℚ) ^ twos ≤ 10 ^ tens := by
  refine le_of_pow_le_pow_left₀ (n := 28) (by norm_num) (by positivity) ?_
  calc ((2 : ℚ) ^ twos) ^ 28 = 2 ^ (28 * twos) := by rw [mul_comm, zpow_mul]; rfl
    _ ≤ 2 ^ (93 * tens) := zpow_le_zpow_right₀ (by norm_num) enough
    _ = (2 ^ 93) ^ tens := by rw [zpow_mul]; rfl
    _ ≤ (10 ^ 28) ^ tens := zpow_le_zpow_left₀ up (by positivity) (by norm_num)
    _ = (10 ^ tens) ^ 28 := by rw [← zpow_natCast, zpow_comm, zpow_natCast]

theorem ten_zpow_le_two_zpow {tens twos : Int} (fine : 196 * tens ≤ 59 * twos)
    (coarse : 93 * tens ≤ 28 * twos) : (10 : ℚ) ^ tens ≤ 2 ^ twos := by
  rcases le_total 0 tens with up | down
  · exact ten_zpow_le_two_zpow_of_nonneg up fine
  · have inverse : (2 : ℚ) ^ (-twos) ≤ 10 ^ (-tens) :=
      two_zpow_le_ten_zpow_of_nonneg (by omega) (by omega)
    rw [zpow_neg, zpow_neg] at inverse
    exact (inv_le_inv₀ (by positivity) (by positivity)).mp inverse

theorem two_zpow_le_ten_zpow {tens twos : Int} (fine : 59 * twos ≤ 196 * tens)
    (coarse : 28 * twos ≤ 93 * tens) : (2 : ℚ) ^ twos ≤ 10 ^ tens := by
  rcases le_total 0 tens with up | down
  · exact two_zpow_le_ten_zpow_of_nonneg up coarse
  · have inverse : (10 : ℚ) ^ (-tens) ≤ 2 ^ (-twos) :=
      ten_zpow_le_two_zpow_of_nonneg (by omega) (by omega)
    rw [zpow_neg, zpow_neg] at inverse
    exact (inv_le_inv₀ (by positivity) (by positivity)).mp inverse

/-- A positive binary value lies between two powers of two. -/
theorem Binary.toRat_bounds {binary : Binary} (positive : 0 < binary.mantissa) :
    2 ^ ((binary.mantissa.log2 : Int) + binary.exponent) ≤ binary.toRat ∧
      binary.toRat < 2 ^ ((binary.mantissa.log2 : Int) + binary.exponent + 1) := by
  have lower : ((2 ^ binary.mantissa.log2 : Nat) : ℚ) ≤ binary.mantissa := by
    exact_mod_cast Nat.log2_self_le positive.ne'
  have upper : (binary.mantissa : ℚ) < (2 ^ (binary.mantissa.log2 + 1) : Nat) := by
    exact_mod_cast Nat.lt_log2_self
  push_cast at lower upper
  have unit_pos : (0 : ℚ) < 2 ^ binary.exponent := by positivity
  rw [toRat, add_right_comm, zpow_add₀ (by norm_num), zpow_add₀ (by norm_num)]
  constructor
  · exact_mod_cast mul_le_mul_of_nonneg_right lower unit_pos.le
  · exact_mod_cast mul_lt_mul_of_pos_right upper unit_pos

section

variable {place : Nat} (positive : 0 < place) (bounded : place < limit)

include positive bounded

/-- The scale of a double is the number of its digits before the point. -/
theorem Double.scale_bounds :
    (10 : ℚ) ^ ((binaryAt place).scale - 1) ≤ valueAt place ∧
      valueAt place < 10 ^ (binaryAt place).scale := by
  obtain ⟨mantissa_lt, _, _, mantissa_pos, exponent_ge, exponent_le⟩ := binaryAt_bounds bounded
  obtain ⟨lower, upper⟩ := Binary.toRat_bounds (mantissa_pos positive)
  have log_le : (binaryAt place).mantissa.log2 ≤ 52 := by
    have := (Nat.log2_lt (mantissa_pos positive).ne').mpr (show _ < 2 ^ 53 from mantissa_lt)
    omega
  rw [valueAt, Binary.scale]
  generalize binaryAt place = binary at *
  generalize estimated :
    ((binary.mantissa.log2 : Int) + binary.exponent) * 30103 / 100000 = estimate
  have least : (10 : ℚ) ^ (estimate - 1) ≤ binary.toRat :=
    (ten_zpow_le_two_zpow (by omega) (by omega)).trans lower
  have greatest : binary.toRat < 10 ^ (estimate + 2) :=
    upper.trans_le (two_zpow_le_ten_zpow (by omega) (by omega))
  split
  · next below => exact ⟨least, (binary.below_iff _).mp below⟩
  · next above =>
      rw [binary.below_iff, not_lt] at above
      split
      · next below => exact ⟨by simpa using above, (binary.below_iff _).mp below⟩
      · next above =>
          rw [binary.below_iff, not_lt] at above
          have one_less : estimate + 2 - 1 = estimate + 1 := by omega
          exact ⟨one_less ▸ above, greatest⟩

end

/-! ## Grid points next to a double -/

/-- What a selection can give: one of the two neighbours, and if both would do, the closer one. -/
theorem Window.pick?_cases (window : Window) (tie : Tie) :
    (window.pick? tie = none ∧ window.holds (window.value / window.unit) = false ∧
      window.holds (window.value / window.unit + 1) = false) ∨
    (window.pick? tie = some (window.value / window.unit) ∧
      window.holds (window.value / window.unit) = true ∧
      (window.holds (window.value / window.unit + 1) = true →
        2 * window.value ≤ (2 * (window.value / window.unit) + 1) * window.unit)) ∨
    (window.pick? tie = some (window.value / window.unit + 1) ∧
      window.holds (window.value / window.unit + 1) = true ∧
      (window.holds (window.value / window.unit) = true →
        (2 * (window.value / window.unit) + 1) * window.unit ≤ 2 * window.value)) := by
  unfold pick?
  generalize window.value / window.unit = floor
  cases below : window.holds floor <;> cases above : window.holds (floor + 1)
  case true.true =>
    rcases lt_trichotomy (2 * window.value) ((2 * floor + 1) * window.unit) with
      less | equal | greater
    · simp [below, above, Nat.compare_eq_lt.mpr less, less.le]
    · cases tie with
      | up => simp [below, above, equal]
      | even => cases Nat.mod_two_eq_zero_or_one floor <;> simp [*]
    · simp [below, above, Nat.compare_eq_gt.mpr greater, greater.le]
  all_goals simp [below, above]

/-- The search ends at the first grid on which something is selected. -/
theorem Binary.shortest_of_first {binary : Binary} {tie : Tie} {extra steps : Nat}
    (small : extra < 17)
    (picked : (Window.ofBinary binary (binary.scale - 1 - extra)).pick? tie = some steps)
    (before : ∀ earlier : Nat, earlier < extra →
      (Window.ofBinary binary (binary.scale - 1 - earlier)).pick? tie = none) :
    binary.shortest tie = Decimal.strip 17 ⟨steps, binary.scale - 1 - extra⟩ := by
  have split : List.range 17 =
      List.range extra ++ extra :: List.range' (extra + 1) (16 - extra) := by
    have behind : 16 - extra + 1 = 17 - extra := by omega
    have joined := @List.range'_append_1 0 extra (17 - extra)
    rw [← behind, List.range'_succ, behind, Nat.zero_add, Nat.add_sub_cancel' small.le] at joined
    rw [List.range_eq_range', List.range_eq_range', joined]
  have found : (List.range 17).findSome? (fun extra : Nat =>
      ((Window.ofBinary binary (binary.scale - 1 - extra)).pick? tie).map fun steps =>
        Decimal.mk steps (binary.scale - 1 - extra)) =
      some ⟨steps, binary.scale - 1 - extra⟩ := by
    refine List.findSome?_eq_some_iff.mpr ⟨_, extra, _, split, ?_, fun earlier member => ?_⟩
    · rw [picked]
      rfl
    · rw [before earlier (List.mem_range.mp member)]
      rfl
  simp only [shortest, found]

namespace Double

variable {place : Nat} (positive : 0 < place) (bounded : place < limit)

include positive bounded

/-- What a selection on a grid can give for a double. -/
theorem pick?_cases (grid : Int) :
    ∃ floor : Nat, floor * 10 ^ grid ≤ valueAt place ∧ valueAt place < (floor + 1) * 10 ^ grid ∧
      ∀ tie, (((Window.ofBinary (binaryAt place) grid).pick? tie = none ∧
          ¬ Rounds (floor * 10 ^ grid) place ∧ ¬ Rounds ((floor + 1) * 10 ^ grid) place) ∨
        ((Window.ofBinary (binaryAt place) grid).pick? tie = some floor ∧
          Rounds (floor * 10 ^ grid) place ∧
          (Rounds ((floor + 1) * 10 ^ grid) place →
            2 * valueAt place ≤ (2 * floor + 1) * 10 ^ grid)) ∨
        ((Window.ofBinary (binaryAt place) grid).pick? tie = some (floor + 1) ∧
          Rounds ((floor + 1) * 10 ^ grid) place ∧
          (Rounds (floor * 10 ^ grid) place →
            (2 * floor + 1) * 10 ^ grid ≤ 2 * valueAt place))) := by
  have holds := holds_iff positive bounded grid
  obtain ⟨factor, factor_pos, _, value, _, unit⟩ := window_scaled positive bounded grid
  have cases := (Window.ofBinary (binaryAt place) grid).pick?_cases
  generalize Window.ofBinary (binaryAt place) grid = window at *
  have unit_pos : 0 < window.unit := by
    have scaled_pos : (0 : ℚ) < 10 ^ grid * factor := by positivity
    rw [← unit] at scaled_pos
    exact_mod_cast scaled_pos
  have floor_le : window.value / window.unit * window.unit ≤ window.value :=
    Nat.div_mul_le_self _ _
  have lt_floor : window.value < (window.value / window.unit + 1) * window.unit := by
    rw [Nat.mul_comm]
    exact Nat.lt_mul_div_succ _ unit_pos
  generalize window.value / window.unit = floor at *
  -- Comparisons in the unit of the window are comparisons of the numbers.
  have scaled_le (left right : Nat) : left * window.unit ≤ right * window.value ↔
      left * 10 ^ grid ≤ right * valueAt place := by
    rw [← mul_le_mul_iff_left₀ factor_pos, mul_assoc, mul_assoc, ← unit, ← value]
    norm_cast
  have le_scaled (left right : Nat) : right * window.value ≤ left * window.unit ↔
      right * valueAt place ≤ left * 10 ^ grid := by
    rw [← mul_le_mul_iff_left₀ factor_pos, mul_assoc, mul_assoc, ← unit, ← value]
    norm_cast
  have next : ((floor + 1 : Nat) : ℚ) = floor + 1 := by push_cast; rfl
  have middle : ((2 * floor + 1 : Nat) : ℚ) = 2 * floor + 1 := by push_cast; rfl
  refine ⟨floor, ?_, ?_, ?_⟩
  · simpa using (scaled_le floor 1).mp (by simpa using floor_le)
  · have above := not_congr (scaled_le (floor + 1) 1)
    rw [Nat.one_mul, Nat.cast_one, one_mul, not_le, not_le, next] at above
    exact above.mp lt_floor
  · intro tie
    have cases := cases tie
    rw [← Bool.not_eq_true, ← Bool.not_eq_true, holds, holds, le_scaled _ 2, scaled_le _ 2, next,
      middle] at cases
    exact cases

/-- A grid point that reads back is no closer than the one that is selected. -/
theorem pick?_of_rounds {grid : Int} {steps : Nat} (rounds : Rounds (steps * 10 ^ grid) place)
    (tie : Tie) :
    ∃ picked, (Window.ofBinary (binaryAt place) grid).pick? tie = some picked ∧
      |picked * 10 ^ grid - valueAt place| ≤ |steps * 10 ^ grid - valueAt place| := by
  obtain ⟨floor, floor_le, lt_next, cases⟩ := pick?_cases positive bounded grid
  have step_pos : (0 : ℚ) < 10 ^ grid := by positivity
  have floor_dist : |floor * 10 ^ grid - valueAt place| = valueAt place - floor * 10 ^ grid := by
    rw [abs_sub_comm, abs_of_nonneg (by linarith)]
  have next_dist : |(floor + 1) * 10 ^ grid - valueAt place| =
      (floor + 1) * 10 ^ grid - valueAt place := abs_of_nonneg (by linarith)
  rcases Nat.lt_or_ge floor steps with above | below
  · -- The point lies above the double, and so does the next one above the double, but not farther.
    have next_le : ((floor : ℚ) + 1) * 10 ^ grid ≤ steps * 10 ^ grid :=
      mul_le_mul_of_nonneg_right (by exact_mod_cast above) step_pos.le
    have next_rounds : Rounds ((floor + 1) * 10 ^ grid) place :=
      rounds.between positive bounded (.inr ⟨lt_next.le, next_le⟩)
    have dist_ge : (floor + 1) * 10 ^ grid - valueAt place ≤
        |steps * 10 ^ grid - valueAt place| := by
      refine le_trans ?_ (le_abs_self _)
      linarith
    rcases cases tie with ⟨_, _, neither⟩ | ⟨picked, _, closer⟩ | ⟨picked, _, _⟩
    · exact absurd next_rounds neither
    · refine ⟨floor, picked, ?_⟩
      have := closer next_rounds
      linarith
    · refine ⟨floor + 1, picked, ?_⟩
      push_cast
      linarith
  · have le_floor : (steps : ℚ) * 10 ^ grid ≤ floor * 10 ^ grid :=
      mul_le_mul_of_nonneg_right (by exact_mod_cast below) step_pos.le
    have floor_rounds : Rounds (floor * 10 ^ grid) place :=
      rounds.between positive bounded (.inl ⟨le_floor, floor_le⟩)
    have dist_ge : valueAt place - floor * 10 ^ grid ≤ |steps * 10 ^ grid - valueAt place| := by
      rw [abs_sub_comm]
      refine le_trans ?_ (le_abs_self _)
      linarith
    rcases cases tie with ⟨_, neither, _⟩ | ⟨picked, _, _⟩ | ⟨picked, _, closer⟩
    · exact absurd floor_rounds neither
    · refine ⟨floor, picked, ?_⟩
      linarith
    · refine ⟨floor + 1, picked, ?_⟩
      have := closer floor_rounds
      push_cast
      linarith

/-- What is selected reads back, and it is at most one step above the double. -/
theorem rounds_of_pick? {grid : Int} {tie : Tie} {steps : Nat}
    (picked : (Window.ofBinary (binaryAt place) grid).pick? tie = some steps) :
    Rounds (steps * 10 ^ grid) place ∧ steps * 10 ^ grid ≤ valueAt place + 10 ^ grid := by
  obtain ⟨floor, floor_le, _, cases⟩ := pick?_cases positive bounded grid
  have step_pos : (0 : ℚ) < 10 ^ grid := by positivity
  rcases cases tie with ⟨other, _⟩ | ⟨other, rounds, _⟩ | ⟨other, rounds, _⟩
  · rw [other] at picked
    cases picked
  · rw [other] at picked
    cases picked
    exact ⟨rounds, by linarith⟩
  · rw [other] at picked
    cases picked
    push_cast
    exact ⟨rounds, by linarith⟩

/-- A grid with more digits has more points up to the next power of ten. -/
theorem le_of_pick? {extra steps : Nat} {tie : Tie}
    (picked : (Window.ofBinary (binaryAt place) ((binaryAt place).scale - 1 - extra)).pick? tie =
      some steps) : steps ≤ 10 ^ (extra + 1) := by
  have near := (rounds_of_pick? positive bounded picked).2
  have below := (scale_bounds positive bounded).2
  have top : (10 : ℚ) ^ (binaryAt place).scale =
      10 ^ (extra + 1) * 10 ^ ((binaryAt place).scale - 1 - extra) := by
    rw [← zpow_natCast, ← zpow_add₀ (by norm_num)]
    congr 1
    push_cast
    ring
  have step_pos : (0 : ℚ) < 10 ^ ((binaryAt place).scale - 1 - extra) := by positivity
  have less : (steps : ℚ) * 10 ^ ((binaryAt place).scale - 1 - extra) <
      (10 ^ (extra + 1) + 1) * 10 ^ ((binaryAt place).scale - 1 - extra) := by
    linarith
  have := lt_of_mul_lt_mul_right less step_pos.le
  exact Nat.lt_succ_iff.mp (by exact_mod_cast this)

/-- On a grid that is finer than the last bit of a double, one of its two neighbours reads back. -/
theorem exists_rounds_of_fine {grid : Int} (fine : 10 ^ grid * 10 ^ 16 ≤ valueAt place) :
    ∃ steps : Nat, Rounds (steps * 10 ^ grid) place := by
  obtain ⟨floor, floor_le, lt_next, _⟩ := pick?_cases positive bounded grid
  obtain ⟨mantissa_lt, narrow, _⟩ := binaryAt_bounds bounded
  have step_pos : (0 : ℚ) < 10 ^ grid := by positivity
  have value := valueAt_eq place
  have upper := halfway_eq bounded
  have lower := halfway_pred_eq positive bounded
  have quarter_pos : (0 : ℚ) < 2 ^ ((binaryAt place).exponent - 2) := by positivity
  have mantissa_lt : ((binaryAt place).mantissa : ℚ) < 2 ^ 53 := by
    exact_mod_cast mantissa_lt
  generalize (2 : ℚ) ^ ((binaryAt place).exponent - 2) = quarter at *
  generalize (10 : ℚ) ^ grid = step at *
  cases kind : (binaryAt place).narrowBelow with
  | true =>
      -- The mantissa is a power of two, so the step is shorter than half of the last bit.
      have mantissa_eq : ((binaryAt place).mantissa : ℚ) = 2 ^ 52 := by
        exact_mod_cast narrow kind
      simp only [kind, ↓reduceIte, mantissa_eq] at value upper lower
      have next : ((floor + 1 : Nat) : ℚ) * step = floor * step + step := by
        push_cast
        ring
      refine ⟨floor + 1, .of_lt ?_ ?_⟩ <;> rw [next] <;> linarith
  | false =>
      have size : (binaryAt place).mantissa * quarter < 2 ^ 53 * quarter :=
        mul_lt_mul_of_pos_right mantissa_lt quarter_pos
      simp only [kind, Bool.false_eq_true, ↓reduceIte] at lower
      by_cases near : valueAt place - floor * step < 2 * quarter
      · refine ⟨floor, .of_lt ?_ ?_⟩ <;> linarith
      · have next : ((floor + 1 : Nat) : ℚ) * step = floor * step + step := by
          push_cast
          ring
        refine ⟨floor + 1, .of_lt ?_ ?_⟩ <;> rw [next] <;> linarith

/-- On the grid for seventeen digits there is a point that reads back. -/
theorem exists_rounds_last :
    ∃ steps : Nat, Rounds (steps * 10 ^ ((binaryAt place).scale - 1 - (16 : Nat))) place := by
  refine exists_rounds_of_fine positive bounded ?_
  refine le_of_eq_of_le ?_ (scale_bounds positive bounded).1
  rw [zpow_sub₀ (by norm_num), zpow_natCast]
  field_simp

/-- The first grid with a point that reads back is searched; this is not a matter of ties. -/
theorem exists_first_grid :
    ∃ extra : Nat,
      (∀ earlier < extra, ∀ steps : Nat,
        ¬Rounds (steps * 10 ^ ((binaryAt place).scale - 1 - earlier)) place) ∧
      ∀ tie, ∃ steps,
        (Window.ofBinary (binaryAt place) ((binaryAt place).scale - 1 - extra)).pick? tie =
          some steps ∧
        (binaryAt place).shortest tie =
          Decimal.strip 17 ⟨steps, (binaryAt place).scale - 1 - extra⟩ := by
  have found : ∃ extra : Nat, ∃ steps : Nat,
      Rounds (steps * 10 ^ ((binaryAt place).scale - 1 - extra)) place :=
    ⟨16, exists_rounds_last positive bounded⟩
  classical
  have small : Nat.find found ≤ 16 := Nat.find_min' found (exists_rounds_last positive bounded)
  have before (earlier : Nat) (less : earlier < Nat.find found) (steps : Nat) :
      ¬Rounds (steps * 10 ^ ((binaryAt place).scale - 1 - earlier)) place :=
    fun rounds => Nat.find_min found less ⟨steps, rounds⟩
  obtain ⟨point, point_rounds⟩ := Nat.find_spec found
  generalize Nat.find found = extra at *
  refine ⟨extra, before, fun tie => ?_⟩
  obtain ⟨steps, picked, _⟩ := pick?_of_rounds positive bounded point_rounds tie
  refine ⟨steps, picked, Binary.shortest_of_first (Nat.lt_succ_of_le small) picked ?_⟩
  intro earlier less
  refine Option.eq_none_iff_forall_ne_some.mpr fun other selected => ?_
  exact before earlier less other (rounds_of_pick? positive bounded selected).1

end Double

/-! ## The fewest digits -/

namespace Decimal

/-- Trailing zeros are moved, not lost. -/
@[simp]
theorem toRat_strip (limit : Nat) (decimal : Decimal) :
    (decimal.strip limit).toRat = decimal.toRat := by
  induction limit generalizing decimal with
  | zero => rfl
  | succ limit ih =>
      rw [strip]
      split
      · next divisible =>
          have tenfold : ((decimal.coefficient / 10 * 10 : Nat) : ℚ) = decimal.coefficient := by
            rw [Nat.div_mul_cancel (Nat.dvd_of_mod_eq_zero divisible)]
          rw [ih, toRat, toRat, ← tenfold, zpow_add_one₀ (by norm_num)]
          push_cast
          ring
      · rfl

theorem coefficient_strip_le (limit : Nat) (decimal : Decimal) :
    (decimal.strip limit).coefficient ≤ decimal.coefficient := by
  induction limit generalizing decimal with
  | zero => exact le_rfl
  | succ limit ih =>
      rw [strip]
      split
      · exact (ih _).trans (Nat.div_le_self _ _)
      · exact le_rfl

/-- A power of ten loses at least one zero. -/
theorem coefficient_strip_lt {limit count : Nat} {decimal : Decimal}
    (small : decimal.coefficient ≤ 10 ^ (count + 1)) :
    (decimal.strip (limit + 1)).coefficient < 10 ^ (count + 1) := by
  rcases small.eq_or_lt with power | less
  · have divided : decimal.coefficient / 10 = 10 ^ count := by
      rw [power, Nat.pow_succ, Nat.mul_div_cancel _ (by norm_num)]
    rw [strip, if_pos (by rw [power, Nat.pow_succ, Nat.mul_mod_left]), divided]
    exact (coefficient_strip_le _ _).trans_lt (Nat.pow_lt_pow_succ (by norm_num))
  · exact (coefficient_strip_le _ _).trans_lt less

theorem length_digits_le_iff {decimal : Decimal} {count : Nat} (positive : 0 < count) :
    decimal.digits.length ≤ count ↔ decimal.coefficient < 10 ^ count :=
  Nat.length_toDigits_le_iff (by norm_num) positive

theorem length_digits_pos (decimal : Decimal) : 0 < decimal.digits.length :=
  Nat.length_toDigits_pos

/--
A decimal is shortest for a double if it reads back as the double, if no decimal with fewer digits
does, and if none that has as few digits is closer to the double.
-/
structure IsShortest (decimal : Decimal) (place : Nat) : Prop where
  rounds : Rounds decimal.toRat place
  fewest : ∀ other : Decimal, Rounds other.toRat place →
    decimal.digits.length ≤ other.digits.length
  closest : ∀ other : Decimal, Rounds other.toRat place →
    other.digits.length ≤ decimal.digits.length →
      |decimal.toRat - valueAt place| ≤ |other.toRat - valueAt place|

end Decimal

namespace Double

variable {place : Nat} (positive : 0 < place) (bounded : place < limit)

include positive bounded

/-- A decimal that reads back gives way to a point of the grid for its number of digits. -/
theorem exists_on_grid {decimal : Decimal} (rounds : Rounds decimal.toRat place) {extra : Nat}
    (short : decimal.digits.length ≤ extra + 1) :
    ∃ steps : Nat, Rounds (steps * 10 ^ ((binaryAt place).scale - 1 - extra)) place ∧
      |steps * 10 ^ ((binaryAt place).scale - 1 - extra) - valueAt place| ≤
        |decimal.toRat - valueAt place| := by
  obtain ⟨scale_le, _⟩ := scale_bounds positive bounded
  have fits : decimal.coefficient < 10 ^ (extra + 1) :=
    (Decimal.length_digits_le_iff (Nat.succ_pos extra)).mp short
  generalize (binaryAt place).scale = scale at *
  by_cases coarse : scale - 1 - extra ≤ decimal.exponent
  · -- The decimal is a point of the grid.
    obtain ⟨shift, shifted⟩ := Int.le.dest coarse
    have same : ((decimal.coefficient * 10 ^ shift : Nat) : ℚ) * 10 ^ (scale - 1 - extra) =
        decimal.toRat := by
      rw [Decimal.toRat, ← shifted, zpow_add₀ (by norm_num), zpow_natCast]
      push_cast
      ring
    refine ⟨decimal.coefficient * 10 ^ shift, ?_, ?_⟩ <;> rw [same]
    exact rounds
  · -- The decimal has its first digit behind that of the double, and a power of ten is in between.
    have same : ((10 ^ extra : Nat) : ℚ) * 10 ^ (scale - 1 - extra) = 10 ^ (scale - 1) := by
      push_cast
      rw [← zpow_natCast, ← zpow_add₀ (by norm_num)]
      congr 1
      ring
    have below : decimal.toRat ≤ 10 ^ (scale - 1) := by
      calc decimal.toRat ≤ 10 ^ (extra + 1) * 10 ^ decimal.exponent :=
            mul_le_mul_of_nonneg_right (by exact_mod_cast fits.le) (by positivity)
        _ = 10 ^ ((extra + 1 : Nat) + decimal.exponent) := by
            rw [zpow_add₀ (by norm_num), zpow_natCast]
        _ ≤ 10 ^ (scale - 1) := zpow_le_zpow_right₀ (by norm_num) (by push_cast; omega)
    refine ⟨10 ^ extra, ?_, ?_⟩ <;> rw [same]
    · exact rounds.between positive bounded (.inl ⟨below, scale_le⟩)
    · rw [abs_sub_comm, abs_of_nonneg (by linarith), abs_sub_comm, abs_of_nonneg (by linarith)]
      linarith

/-- The selection among grids gives the shortest decimals. -/
theorem shortest_isShortest (tie : Tie) :
    ((binaryAt place).shortest tie).IsShortest place := by
  obtain ⟨extra, none_before, first⟩ := exists_first_grid positive bounded
  obtain ⟨steps, picked, same⟩ := first tie
  have rounds := (rounds_of_pick? positive bounded picked).1
  have value : ((binaryAt place).shortest tie).toRat =
      steps * 10 ^ ((binaryAt place).scale - 1 - extra) := by
    rw [same, Decimal.toRat_strip, Decimal.toRat]
  have short : ((binaryAt place).shortest tie).digits.length ≤ extra + 1 := by
    rw [Decimal.length_digits_le_iff (Nat.succ_pos extra), same]
    exact Decimal.coefficient_strip_lt (le_of_pick? positive bounded picked)
  refine ⟨value ▸ rounds, fun other other_rounds => ?_, fun other other_rounds not_longer => ?_⟩
  · -- On the grid for the digits of the other decimal, a point would have been found.
    obtain ⟨count, length⟩ : ∃ count, other.digits.length = count + 1 :=
      ⟨other.digits.length - 1, by have := other.length_digits_pos; omega⟩
    by_contra longer
    obtain ⟨point, point_rounds, _⟩ :=
      exists_on_grid positive bounded other_rounds length.le
    exact none_before count (by omega) point point_rounds
  · obtain ⟨point, point_rounds, point_near⟩ :=
      exists_on_grid positive bounded other_rounds (not_longer.trans short)
    obtain ⟨found, selected, found_near⟩ := pick?_of_rounds positive bounded point_rounds tie
    rw [picked, Option.some.injEq] at selected
    rw [value, selected]
    exact found_near.trans point_near

/-- Formats that treat ties in different ways differ only in the middle between two decimals. -/
theorem shortest_eq_or_middle :
    (binaryAt place).shortest .up = (binaryAt place).shortest .even ∨
      ((binaryAt place).shortest .up).toRat + ((binaryAt place).shortest .even).toRat =
        2 * valueAt place := by
  obtain ⟨extra, _, first⟩ := exists_first_grid positive bounded
  obtain ⟨steps, picked, same⟩ := first .up
  obtain ⟨other_steps, other_picked, other_same⟩ := first .even
  obtain ⟨floor, floor_le, lt_next, cases⟩ :=
    pick?_cases positive bounded ((binaryAt place).scale - 1 - extra)
  have up := cases .up
  have even := cases .even
  rw [picked] at up
  rw [other_picked] at even
  rw [same, other_same, Decimal.toRat_strip, Decimal.toRat_strip, Decimal.toRat, Decimal.toRat]
  generalize (binaryAt place).scale - 1 - (extra : Int) = grid at *
  rcases up with ⟨nothing, _⟩ | ⟨here, rounds, below⟩ | ⟨here, rounds, above⟩
  · cases nothing
  · rcases even with ⟨nothing, _⟩ | ⟨there, _⟩ | ⟨there, other_rounds, above⟩
    · cases nothing
    · rw [Option.some.inj here, Option.some.inj there]
      exact .inl rfl
    · rw [Option.some.inj here, Option.some.inj there]
      have at_most := below other_rounds
      have at_least := above rounds
      push_cast
      exact .inr (by linarith)
  · rcases even with ⟨nothing, _⟩ | ⟨there, other_rounds, below⟩ | ⟨there, _⟩
    · cases nothing
    · rw [Option.some.inj here, Option.some.inj there]
      have at_most := below rounds
      have at_least := above other_rounds
      push_cast
      exact .inr (by linarith)
    · rw [Option.some.inj here, Option.some.inj there]
      exact .inl rfl

-- The double `2 ^ -25` is such a middle.
example : (binaryAt 0x3E60000000000000).shortest .up = ⟨29802322387695313, -24⟩ ∧
    (binaryAt 0x3E60000000000000).shortest .even = ⟨29802322387695312, -24⟩ := by
  decide +kernel

end Double

/-! ## The first and the last digit -/

namespace Decimal

/-- The exponent of the first digit is that of the greatest power of ten in the number. -/
theorem leading_bounds {decimal : Decimal} (positive : 0 < decimal.coefficient) :
    (10 : ℚ) ^ decimal.leading ≤ decimal.toRat ∧ decimal.toRat < 10 ^ (decimal.leading + 1) := by
  obtain ⟨count, length⟩ : ∃ count, decimal.digits.length = count + 1 :=
    ⟨decimal.digits.length - 1, by have := decimal.length_digits_pos; omega⟩
  have lower : 10 ^ count ≤ decimal.coefficient := by
    rcases Nat.eq_zero_or_pos count with rfl | several
    · exact positive
    · rw [← not_lt, ← length_digits_le_iff several]
      omega
  have upper : decimal.coefficient < 10 ^ (count + 1) :=
    (length_digits_le_iff (Nat.succ_pos count)).mp length.le
  have unit_pos : (0 : ℚ) < 10 ^ decimal.exponent := by positivity
  have first : decimal.leading = count + decimal.exponent := by
    rw [leading, length]
    push_cast
    ring
  rw [first, toRat, add_right_comm, zpow_add₀ (by norm_num), zpow_add₀ (by norm_num)]
  constructor
  · refine mul_le_mul_of_nonneg_right ?_ unit_pos.le
    exact_mod_cast lower
  · refine mul_lt_mul_of_pos_right ?_ unit_pos
    exact_mod_cast upper

namespace IsShortest

variable {decimal : Decimal} {place : Nat} (shortest : decimal.IsShortest place)
  (positive : 0 < place) (bounded : place < limit)

include shortest positive bounded

theorem coefficient_pos : 0 < decimal.coefficient := by
  have number_pos := shortest.rounds.pos positive bounded
  refine Nat.pos_of_ne_zero fun zero => ?_
  rw [toRat, zero, Nat.cast_zero, zero_mul] at number_pos
  exact lt_irrefl _ number_pos

/-- The last digit is not zero: without it, the decimal would be shorter. -/
theorem coefficient_mod_ne_zero : decimal.coefficient % 10 ≠ 0 := by
  intro divisible
  have number_pos := shortest.coefficient_pos positive bounded
  have same : (strip 1 decimal).toRat = decimal.toRat := toRat_strip 1 decimal
  have stripped : strip 1 decimal = ⟨decimal.coefficient / 10, decimal.exponent + 1⟩ :=
    if_pos divisible
  have not_shorter := shortest.fewest (strip 1 decimal) (same ▸ shortest.rounds)
  rw [stripped, digits, digits, Nat.toDigits_of_base_le (by norm_num) (by omega),
    List.length_append, List.length_singleton] at not_shorter
  exact absurd not_shorter (Nat.not_succ_le_self _)

end IsShortest

end Decimal

namespace Double

/-- The first digits of all doubles are in the order of the doubles. -/
theorem le_leading_iff {place bound : Nat} {tie : Tie} {power : Int}
    (round : (binaryAt bound).shortest tie = ⟨1, power⟩) (bound_pos : 0 < bound)
    (bound_bounded : bound < limit) (positive : 0 < place) (bounded : place < limit) :
    power ≤ ((binaryAt place).shortest tie).leading ↔ bound ≤ place := by
  have shortest := shortest_isShortest positive bounded tie
  have bound_rounds := (shortest_isShortest bound_pos bound_bounded tie).rounds
  obtain ⟨lower, upper⟩ := Decimal.leading_bounds (shortest.coefficient_pos positive bounded)
  have at_bound : (⟨1, power⟩ : Decimal).toRat = 10 ^ power := by
    rw [Decimal.toRat, Nat.cast_one, one_mul]
  rcases lt_trichotomy place bound with before | rfl | behind
  · have less := shortest.rounds.lt bound_rounds before bound_bounded
    rw [round, at_bound] at less
    have := (zpow_lt_zpow_iff_right₀ (by norm_num)).mp (lower.trans_lt less)
    omega
  · have one_digit : Nat.toDigits 10 1 = ['1'] := by decide
    have first : (⟨1, power⟩ : Decimal).leading = power := by
      rw [Decimal.leading, Decimal.digits, one_digit]
      exact Int.add_sub_cancel power 1
    rw [round, first]
    exact iff_of_true le_rfl le_rfl
  · have greater := bound_rounds.lt shortest.rounds behind bounded
    rw [round, at_bound] at greater
    have := (zpow_lt_zpow_iff_right₀ (by norm_num)).mp (greater.trans upper)
    omega

end Double

end Stencil
