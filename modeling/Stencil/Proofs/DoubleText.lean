import Stencil.Json.Text
import Stencil.Proofs.DoubleOrder
import Stencil.Proofs.NumeralValue

/-!
# The text of a double

Whether a double is shown with an exponent is decided by its magnitude, before it has digits, and
the plus sign of the exponent is put into a text that is already there. All in all this is a
decision about digits (`Json.floatText_eq`): an exponent is shown if that of the first digit is
greater than twenty or less than minus six. The lower bound is a double and not quite a power of
ten. But its digits are those of a power of ten, and digits are in the order of their doubles.
-/

namespace Stencil

open Double

namespace Layout

theorem set_of_finite (layout : Layout) {number : Float} (finite : placeOf number < limit) :
    layout.set number =
      (if number.toBits = number.toBits &&& 0x7FFFFFFFFFFFFFFF then [] else ['-']) ++
        layout.setMagnitude (binaryAt (placeOf number)) := by
  have same : Binary.ofBits (number.toBits &&& 0x7FFFFFFFFFFFFFFF) =
      binaryAt (placeOf number) := by
    rw [binaryAt, placeOf, Nat.toUInt64, UInt64.ofNat_toNat]
  have less : (number.toBits &&& 0x7FFFFFFFFFFFFFFF).toNat < 0x7FF0000000000000 := finite
  have not_greater : ¬0x7FF0000000000000 < number.toBits &&& 0x7FFFFFFFFFFFFFFF := by
    rw [UInt64.lt_iff_toNat_lt, not_lt]
    exact less.le
  have not_equal : number.toBits &&& 0x7FFFFFFFFFFFFFFF ≠ 0x7FF0000000000000 := by
    rw [Ne, ← UInt64.toNat_inj]
    exact less.ne
  rw [set, if_neg not_greater, if_neg not_equal, same]

/-- Zero is set as the digit zero, possibly with a minus sign. -/
theorem set_of_zero (layout : Layout) {number : Float} (zero : placeOf number = 0) :
    ∃ negative : Bool, layout.set number =
      (if negative then ['-'] else []) ++ layout.setDecimal ⟨0, 0⟩ := by
  refine ⟨number.toBits ≠ number.toBits &&& 0x7FFFFFFFFFFFFFFF, ?_⟩
  rw [set_of_finite layout (by rw [zero]; decide), setMagnitude, zero,
    binaryAt_of_small (by norm_num), if_pos rfl]
  simp

/-- Every other finite double is set as its shortest digits. -/
theorem set_of_pos (layout : Layout) {number : Float} (positive : 0 < placeOf number)
    (finite : placeOf number < limit) :
    layout.set number = (if number < 0 then ['-'] else []) ++
      layout.setDecimal ((binaryAt (placeOf number)).shortest layout.tie) := by
  have mantissa_pos := (binaryAt_bounds finite).2.2.2.1 positive
  rw [set_of_finite layout finite, setMagnitude, if_neg mantissa_pos.ne',
    if_congr (lt_zero_iff finite positive) rfl rfl, ite_not]

/-- Zero is read from the text of zero, whatever its sign is. -/
theorem value?_set_of_zero (layout : Layout) {number : Float} (zero : placeOf number = 0) :
    Numeral.value? (layout.set number) = some 0 := by
  obtain ⟨negative, set_eq⟩ := layout.set_of_zero zero
  rw [set_eq, Numeral.value?_signed (Numeral.magnitude?_setDecimal layout ⟨0, 0⟩),
    Decimal.toRat_zero, neg_zero, ite_self]

/-- The text of a double denotes its shortest digits. -/
theorem value?_set_of_pos (layout : Layout) {number : Float} (positive : 0 < placeOf number)
    (finite : placeOf number < limit) :
    Numeral.value? (layout.set number) =
      some (if number < 0 then -((binaryAt (placeOf number)).shortest layout.tie).toRat
        else ((binaryAt (placeOf number)).shortest layout.tie).toRat) := by
  rw [layout.set_of_pos positive finite,
    Numeral.value?_signed (Numeral.magnitude?_setDecimal layout _)]

end Layout

namespace Json

/-- The layout of output text. -/
def textLayout : Layout where
  positional leading := -6 ≤ leading && leading ≤ 20
  fraction := false
  plus := true
  tie := .up

theorem signExponent_append {front : List Char} (plain : 'e' ∉ front) (exponent : List Char) :
    signExponent (front ++ 'e' :: exponent) =
      front ++ 'e' :: if exponent.head? = some '-' then exponent else '+' :: exponent := by
  have not_mark : ∀ char ∈ front, (char != 'e') = true := by
    intro char member
    exact bne_iff_ne.mpr fun same => plain (same ▸ member)
  rw [signExponent, List.dropWhile_append_of_pos not_mark, List.takeWhile_append_of_pos not_mark]
  simp only [List.dropWhile_cons, List.takeWhile_cons, bne_self_eq_false, Bool.false_eq_true,
    ↓reduceIte, List.append_nil]
  split <;> rfl

/-- The sign of an exponent can be put in later. -/
theorem signExponent_setScientific {front digits : List Char} (front_plain : 'e' ∉ front)
    (digits_plain : 'e' ∉ digits) (leading : Int) :
    signExponent (front ++ Decimal.setScientific false digits leading) =
      front ++ Decimal.setScientific true digits leading := by
  obtain ⟨first, others, exponent, first_digit⟩ := exists_toDigits_cons leading.natAbs
  have not_minus : first ≠ '-' := by
    rintro rfl
    cases first_digit
  have plain : 'e' ∉ front ++ Decimal.significand digits := by
    rw [List.mem_append, not_or]
    refine ⟨front_plain, fun member => ?_⟩
    rcases Decimal.mem_significand member with point | digit
    · cases point
    · exact digits_plain digit
  rw [Decimal.setScientific, Decimal.setScientific, ← List.append_assoc, ← List.append_assoc,
    signExponent_append plain, exponent]
  split <;> simp [not_minus]

/-- The digits of the two bounds are those of powers of ten. -/
theorem shortest_bounds :
    (binaryAt (placeOf 1e21)).shortest .up = ⟨1, 21⟩ ∧
      (binaryAt (placeOf 1e-6)).shortest .up = ⟨1, -6⟩ := by
  constructor <;> decide +kernel

theorem bounds_finite : signOf 1e21 = .positive ∧ 0 < placeOf 1e21 ∧ placeOf 1e21 < limit ∧
    signOf 1e-6 = .positive ∧ 0 < placeOf 1e-6 ∧ placeOf 1e-6 < limit := by
  refine ⟨if_pos ?_, ?_, ?_, if_pos ?_, ?_, ?_⟩ <;> decide +kernel

section

variable {number : Float} (positive : 0 < placeOf number) (finite : placeOf number < limit)

include positive finite

/-- The magnitude of a double tells whether its first digit is shown with an exponent. -/
theorem shows_exponent_iff :
    (1e21 ≤ number.abs || number.abs < 1e-6) =
      !textLayout.positional ((binaryAt (placeOf number)).shortest .up).leading := by
  obtain ⟨great, small⟩ := shortest_bounds
  obtain ⟨great_sign, great_pos, great_finite, small_sign, small_pos, small_finite⟩ := bounds_finite
  have from_great : 1e21 ≤ number.abs ↔
      21 ≤ ((binaryAt (placeOf number)).shortest .up).leading := by
    rw [le_abs_iff finite great_sign great_finite,
      le_leading_iff great great_pos great_finite positive finite]
  have below_small : number.abs < 1e-6 ↔
      ¬-6 ≤ ((binaryAt (placeOf number)).shortest .up).leading := by
    rw [abs_lt_iff finite small_sign small_finite,
      le_leading_iff small small_pos small_finite positive finite, not_le]
  rw [Bool.eq_iff_iff]
  simp only [Bool.or_eq_true, decide_eq_true_eq, from_great, below_small, textLayout,
    Bool.not_eq_true', Bool.and_eq_false_iff, decide_eq_false_iff_not]
  omega

/-- Output text is in one layout. -/
theorem floatText_eq : floatText number = textLayout.set number := by
  have not_zero : (number == 0) = false := by
    rw [← Bool.not_eq_true, beq_zero_iff finite]
    omega
  have sign_plain : 'e' ∉ (if number < 0 then ['-'] else []) := by split <;> simp
  have digits_plain : 'e' ∉ ((binaryAt (placeOf number)).shortest .up).digits :=
    fun member => Bool.false_ne_true (Numeral.all_isDigit_toDigits _ _ member)
  rw [floatText, not_zero, shows_exponent_iff positive finite, Layout.set_of_pos _ positive finite,
    Layout.set_of_pos _ positive finite, Layout.set_of_pos _ positive finite]
  change _ = _ ++ if textLayout.positional
    ((binaryAt (placeOf number)).shortest .up).leading then _ else _
  cases textLayout.positional ((binaryAt (placeOf number)).shortest .up).leading with
  | true => rfl
  | false => exact signExponent_setScientific sign_plain digits_plain _

end

/--
How digits are shown whose first one has the exponent `leading`: with a point and zeros if the
exponent is neither greater than twenty nor less than minus six, and otherwise as a number below ten
and its power of ten.
-/
structure ShownAs (digits : List Char) (leading : Int) (text : List Char) : Prop where
  /-- Digits before the point are filled up to the units, and the point is not shown. -/
  integral : 0 ≤ leading → leading ≤ 20 → digits.length ≤ leading + 1 →
    text = digits ++ List.replicate (leading + 1 - digits.length).toNat '0'
  /-- The point is between the units and the digits behind them. -/
  inside : 0 ≤ leading → leading ≤ 20 → leading + 1 < digits.length →
    text = digits.take (leading + 1).toNat ++ '.' :: digits.drop (leading + 1).toNat
  /-- Digits behind the point have zeros before them, and one of these before the point. -/
  small : -6 ≤ leading → leading < 0 →
    text = '0' :: '.' :: (List.replicate (-leading - 1).toNat '0' ++ digits)
  /-- The exponent has a sign and no zero in front. -/
  exponential : leading < -6 ∨ 21 ≤ leading →
    ∃ first rest power, digits = first :: rest ∧
      text = first :: (if rest = [] then [] else '.' :: rest) ++
        'e' :: (if leading < 0 then '-' else '+') :: power ∧
      power = Nat.toDigits 10 leading.natAbs ∧ power.head? ≠ some '0'
  /-- An exponent is shown only in these cases. -/
  marked : 'e' ∈ text ↔ leading < -6 ∨ 21 ≤ leading

theorem shownAs_setPositional {digits : List Char} (plain : 'e' ∉ digits) {leading : Int}
    (bounds : -6 ≤ leading ∧ leading ≤ 20) :
    ShownAs digits leading (Decimal.setPositional false digits leading) where
  integral := by
    intro lower _ fits
    rw [Decimal.setPositional, if_neg (by omega), if_pos (by omega),
      if_neg Bool.false_ne_true, List.append_nil]
    congr 2
    omega
  inside := by
    intro lower _ longer
    have whole : leading.toNat + 1 = (leading + 1).toNat := by omega
    rw [Decimal.setPositional, if_neg (by omega), if_neg (by omega), whole]
  small := by
    intro _ negative
    rw [Decimal.setPositional, if_pos negative]
  exponential := by omega
  marked := by
    refine iff_of_false (fun member => ?_) (by omega)
    rcases Decimal.mem_setPositional member with zero | point | digit
    · cases zero
    · cases point
    · exact plain digit

theorem shownAs_setScientific {digits : List Char} (some_digits : digits ≠ []) {leading : Int}
    (bounds : leading < -6 ∨ 21 ≤ leading) :
    ShownAs digits leading (Decimal.setScientific true digits leading) where
  integral := by omega
  inside := by omega
  small := by omega
  exponential := by
    intro _
    obtain ⟨first, rest, rfl⟩ := List.exists_cons_of_ne_nil some_digits
    refine ⟨first, rest, _, rfl, ?_, rfl, fun zero => ?_⟩
    · rw [Decimal.setScientific]
      cases rest <;> split <;> simp [Decimal.significand]
    · obtain ⟨others, shown⟩ := List.head?_eq_some_iff.mp zero
      exact toDigits_ne_zero_cons (by omega) others shown
  marked := iff_of_true (by simp [Decimal.setScientific]) bounds

theorem shownAs_setDecimal (decimal : Decimal) :
    ShownAs decimal.digits decimal.leading (textLayout.setDecimal decimal) := by
  have plain : 'e' ∉ decimal.digits :=
    fun member => Bool.false_ne_true (Numeral.all_isDigit_toDigits _ _ member)
  rw [Layout.setDecimal]
  split
  · next positional =>
    exact shownAs_setPositional plain (by simpa [textLayout] using positional)
  · next exponential =>
    refine shownAs_setScientific Nat.toDigits_ne_nil ?_
    simp [textLayout] at exponential
    omega

theorem getLast?_toDigits (number : Nat) :
    (Nat.toDigits 10 number).getLast? = some (Nat.digitChar (number % 10)) := by
  by_cases small : number < 10
  · rw [Nat.toDigits_of_lt_base small, Nat.mod_eq_of_lt small]
    rfl
  · rw [Nat.toDigits_of_base_le (by norm_num) (by omega), List.getLast?_append]
    rfl

/-- The first and the last digit of a double are not zeros. -/
theorem digits_ends {decimal : Decimal} {place : Nat} (shortest : decimal.IsShortest place)
    (positive : 0 < place) (bounded : place < limit) :
    decimal.digits.head? ≠ some '0' ∧ decimal.digits.getLast? ≠ some '0' := by
  have coefficient_pos := shortest.coefficient_pos positive bounded
  have last_ne := shortest.coefficient_mod_ne_zero positive bounded
  have nonzero : ∀ digit < 10, digit ≠ 0 → some (Nat.digitChar digit) ≠ some '0' := by decide
  refine ⟨fun zero => ?_, ?_⟩
  · obtain ⟨others, shown⟩ := List.head?_eq_some_iff.mp zero
    exact toDigits_ne_zero_cons coefficient_pos others shown
  · rw [Decimal.digits, getLast?_toDigits]
    exact nonzero _ (Nat.mod_lt _ (by norm_num)) last_ne

/-- All finite doubles are numerals in output text. -/
theorem isMark_of_mem_floatText {number : Float} (finite : placeOf number < limit) :
    ∀ char ∈ floatText number, Numeral.isMark char = true := by
  rcases Nat.eq_zero_or_pos (placeOf number) with zero | positive
  · rw [floatText, if_pos ((beq_zero_iff finite).mpr zero)]
    exact List.forall_mem_singleton.mpr rfl
  · rw [floatText_eq positive finite, textLayout.set_of_pos positive finite, List.forall_mem_append]
    refine ⟨?_, Numeral.isMark_of_mem_setDecimal _ _⟩
    split
    · exact List.forall_mem_singleton.mpr rfl
    · exact List.forall_mem_nil _

/--
Zero is shown without a sign. Every other finite double is shown with its shortest digits, in the
layout that the exponent of the first one asks for. Nothing in the text needs to be escaped. It
denotes the same number as the compact text does if this has the same digits; and it has, unless the
double is exactly in the middle between two decimals.
-/
theorem text_float (number : Float) (finite : number.isFinite = true) :
    let text := (Json.number (.float number)).text
    let compact := (Json.number (.float number)).compact
    let shown := (binaryAt (placeOf number)).shortest .up
    let stored := (binaryAt (placeOf number)).shortest .even
    ((number == 0) = true → text = "0" ∧
      Numeral.value? text.toList = some 0 ∧ Numeral.value? compact.toList = some 0) ∧
    ((number == 0) = false →
      (shown.IsShortest (placeOf number) ∧ stored.IsShortest (placeOf number) ∧
        shown.digits.head? ≠ some '0' ∧ shown.digits.getLast? ≠ some '0' ∧
        10 ^ shown.leading ≤ shown.toRat ∧ shown.toRat < 10 ^ (shown.leading + 1)) ∧
      (∃ magnitude, text.toList = (if number < 0 then ['-'] else []) ++ magnitude ∧
        ShownAs shown.digits shown.leading magnitude) ∧
      Numeral.value? text.toList = some (if number < 0 then -shown.toRat else shown.toRat) ∧
      (shown = stored → Numeral.value? compact.toList = Numeral.value? text.toList) ∧
      (shown = stored ∨ shown.toRat + stored.toRat = 2 * valueAt (placeOf number))) ∧
    (∀ char ∈ text.toList, char.isDigit ∨ char ∈ ['.', 'e', '+', '-']) ∧
    Html.escape text = text := by
  rw [isFinite_iff] at finite
  have text_eq : (Json.number (.float number)).text.toList = floatText number := by
    simp [text, numberText]
  have compact_eq : (Json.number (.float number)).compact.toList = layout.set number := by
    simp [compact, spell, spellNumber]
  have marks := isMark_of_mem_floatText finite
  rw [← text_eq] at marks
  refine ⟨fun zero => ?_, fun nonzero => ?_, fun char member => ?_, Numeral.escape_of_isMark marks⟩
  · have shown : floatText number = ['0'] := if_pos zero
    rw [text_eq, shown, compact_eq]
    refine ⟨?_, ?_, layout.value?_set_of_zero ((beq_zero_iff finite).mp zero)⟩
    · exact String.toList_injective (text_eq.trans shown)
    · rw [← Decimal.toRat_zero]
      exact Numeral.value?_of_magnitude? (Numeral.magnitude?_setDecimal textLayout ⟨0, 0⟩)
  · have positive : 0 < placeOf number :=
      Nat.pos_of_ne_zero fun zero => by simp [(beq_zero_iff finite).mpr zero] at nonzero
    have shortest := shortest_isShortest positive finite .up
    obtain ⟨first_ne, last_ne⟩ := digits_ends shortest positive finite
    obtain ⟨lower, upper⟩ := Decimal.leading_bounds (shortest.coefficient_pos positive finite)
    have denotes := textLayout.value?_set_of_pos positive finite
    rw [text_eq, compact_eq, floatText_eq positive finite]
    refine ⟨⟨shortest, shortest_isShortest positive finite .even, first_ne, last_ne, lower, upper⟩,
      ⟨_, textLayout.set_of_pos positive finite, shownAs_setDecimal _⟩, denotes, fun same => ?_,
      shortest_eq_or_middle positive finite⟩
    have same_digits : (binaryAt (placeOf number)).shortest layout.tie =
        (binaryAt (placeOf number)).shortest textLayout.tie := same.symm
    rw [denotes, layout.value?_set_of_pos positive finite, same_digits]
  · simpa [Numeral.isMark] using marks char member

/-- A negative number with an exponent: its text, and the number that both texts denote. -/
theorem text_float_small_negative :
    (-1.5e-7 : Float).isFinite = true ∧
      (Json.number (.float (-1.5e-7))).text.toList = ['-', '1', '.', '5', 'e', '-', '7'] ∧
      Html.escape (Json.number (.float (-1.5e-7))).text =
        (Json.number (.float (-1.5e-7))).text ∧
      Numeral.value? (Json.number (.float (-1.5e-7))).compact.toList =
        Numeral.value? (Json.number (.float (-1.5e-7))).text.toList := by
  have finite : (-1.5e-7 : Float).isFinite = true := by decide +kernel
  have negative : (-1.5e-7 : Float) < 0 := by decide +kernel
  have digits : (binaryAt (placeOf (-1.5e-7))).shortest .up = ⟨15, -8⟩ := by decide +kernel
  have same_digits : (binaryAt (placeOf (-1.5e-7))).shortest .up =
      (binaryAt (placeOf (-1.5e-7))).shortest .even := by decide +kernel
  obtain ⟨_, nonzero, _, escaped⟩ := text_float (-1.5e-7) finite
  obtain ⟨_, ⟨magnitude, signed, shown⟩, _, same_number, _⟩ := nonzero (by decide +kernel)
  refine ⟨finite, ?_, escaped, same_number same_digits⟩
  rw [digits] at shown
  obtain ⟨first, rest, power, split, text_eq, rfl, _⟩ := shown.exponential (.inl (by decide))
  have two : (⟨15, -8⟩ : Decimal).digits = ['1', '5'] := by decide
  rw [two, List.cons.injEq] at split
  rw [signed, if_pos negative, text_eq, ← split.1, ← split.2]
  decide

end Json

end Stencil
