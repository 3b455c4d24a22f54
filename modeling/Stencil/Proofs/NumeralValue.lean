import Stencil.Proofs.ReadingBack
import Stencil.Proofs.ShortestDigits

/-!
# The number that a numeral denotes

A numeral has digits, possibly a point among them, and possibly an exponent behind them. Its number
is exact: it is the number of all digits together, times a power of ten. However a layout sets a
decimal, the text denotes that decimal (`Numeral.magnitude?_setDecimal`).
-/

namespace Stencil

theorem Decimal.toRat_zero : (⟨0, 0⟩ : Decimal).toRat = 0 := by
  rw [toRat, Nat.cast_zero, zero_mul]

/-- Digits at the end that are zeros are worth a power of ten. -/
theorem Decimal.toRat_mul (coefficient shift : Nat) (exponent : Int) :
    Decimal.toRat ⟨coefficient * 10 ^ shift, exponent⟩ =
      Decimal.toRat ⟨coefficient, exponent + shift⟩ := by
  rw [toRat, toRat, zpow_add₀ (by norm_num), zpow_natCast]
  push_cast
  ring

/-- Only zeros and the point are added to the digits. -/
theorem Decimal.mem_setPositional {char : Char} {fraction : Bool} {digits : List Char}
    {leading : Int} (member : char ∈ setPositional fraction digits leading) :
    char = '0' ∨ char = '.' ∨ char ∈ digits := by
  rw [setPositional] at member
  split at member
  · simp only [List.mem_cons, List.mem_append, List.mem_replicate] at member
    tauto
  · simp only at member
    split at member
    · rw [List.mem_append, List.mem_append, List.mem_replicate] at member
      rcases member with (digit | ⟨_, zero⟩) | shown
      · exact .inr (.inr digit)
      · exact .inl zero
      · split at shown
        · simp only [List.mem_cons, List.not_mem_nil, or_false] at shown
          tauto
        · cases shown
    · rw [List.mem_append, List.mem_cons] at member
      rcases member with front | point | back
      · exact .inr (.inr (List.mem_of_mem_take front))
      · exact .inr (.inl point)
      · exact .inr (.inr (List.mem_of_mem_drop back))

/-- Only the point is added to the digits. -/
theorem Decimal.mem_significand {char : Char} {digits : List Char}
    (member : char ∈ significand digits) : char = '.' ∨ char ∈ digits := by
  unfold significand at member
  split at member <;> simp_all
  tauto

namespace Numeral

/-- The value of digits. -/
def digits? (text : List Char) : Option Nat :=
  if text ≠ [] ∧ text.all Char.isDigit then some (Nat.ofDigitChars 10 text 0) else none

/-- The exponent behind the digits of a numeral; without a mark it is zero. -/
def exponent? : List Char → Option Int
  | [] => some 0
  | 'e' :: '+' :: text => (digits? text).map fun digits => digits
  | 'e' :: '-' :: text => (digits? text).map fun digits => -digits
  | 'e' :: text => (digits? text).map fun digits => digits
  | _ => none

/-- The number of an unsigned numeral. -/
def magnitude? (text : List Char) : Option ℚ :=
  let whole := text.takeWhile Char.isDigit
  match text.dropWhile Char.isDigit with
  | '.' :: rest =>
      let fraction := rest.takeWhile Char.isDigit
      if whole = [] ∨ fraction = [] then none
      else (exponent? (rest.dropWhile Char.isDigit)).map fun exponent =>
        Decimal.toRat ⟨Nat.ofDigitChars 10 (whole ++ fraction) 0, exponent - fraction.length⟩
  | rest =>
      if whole = [] then none
      else (exponent? rest).map fun exponent =>
        Decimal.toRat ⟨Nat.ofDigitChars 10 whole 0, exponent⟩

/-- The number of a numeral. -/
def value? : List Char → Option ℚ
  | '-' :: text => (magnitude? text).map fun number => -number
  | text => magnitude? text

theorem all_isDigit_toDigits (number : Nat) :
    ∀ char ∈ Nat.toDigits 10 number, char.isDigit = true :=
  fun _ member => Nat.isDigit_of_mem_toDigits (by omega) (by omega) member

theorem digits?_toDigits (number : Nat) : digits? (Nat.toDigits 10 number) = some number := by
  rw [digits?, if_pos ⟨Nat.toDigits_ne_nil, List.all_eq_true.mpr (all_isDigit_toDigits number)⟩,
    Nat.ofDigitChars_ten_toDigits]

/-- An exponent is read with a minus sign, with a plus sign and without a sign. -/
theorem exponent?_signed (plus : Bool) (exponent : Int) :
    exponent? ('e' :: ((if exponent < 0 then ['-'] else if plus then ['+'] else []) ++
      Nat.toDigits 10 exponent.natAbs)) = some exponent := by
  have read := digits?_toDigits exponent.natAbs
  by_cases down : exponent < 0
  · rw [if_pos down]
    simp [exponent?, read, abs_of_neg down]
  · rw [if_neg down]
    cases plus with
    | true => simp [exponent?, read, abs_of_nonneg (not_lt.mp down)]
    | false =>
        obtain ⟨first, others, digits, first_digit⟩ := Json.exists_toDigits_cons exponent.natAbs
        rw [digits] at read
        have not_plus : first ≠ '+' := by
          rintro rfl
          cases first_digit
        have not_minus : first ≠ '-' := by
          rintro rfl
          cases first_digit
        simp [digits, exponent?, not_plus, not_minus, read, abs_of_nonneg (not_lt.mp down)]

/-- Digits end where an exponent begins. -/
theorem digits_of_exponent? {digits behind : List Char} {exponent : Int}
    (all_digits : ∀ char ∈ digits, char.isDigit = true) (read : exponent? behind = some exponent) :
    (digits ++ behind).takeWhile Char.isDigit = digits ∧
      (digits ++ behind).dropWhile Char.isDigit = behind := by
  have mark : behind = [] ∨ ∃ rest, behind = 'e' :: rest := by
    unfold exponent? at read
    split at read <;> simp_all
  rw [List.takeWhile_append_of_pos all_digits, List.dropWhile_append_of_pos all_digits]
  rcases mark with rfl | ⟨rest, rfl⟩ <;> simp

section

variable {whole fraction behind : List Char} {exponent : Int}
  (whole_digits : ∀ char ∈ whole, char.isDigit = true) (whole_ne_nil : whole ≠ [])
  (read : exponent? behind = some exponent)

include whole_digits whole_ne_nil read

/-- A numeral without a point. -/
theorem magnitude?_whole :
    magnitude? (whole ++ behind) =
      some (Decimal.toRat ⟨Nat.ofDigitChars 10 whole 0, exponent⟩) := by
  obtain ⟨taken, dropped⟩ := digits_of_exponent? whole_digits read
  have no_point (rest : List Char) : behind ≠ '.' :: rest := by
    rintro rfl
    cases read
  rw [magnitude?, taken, dropped]
  simp [whole_ne_nil, read]

/-- A numeral with a point. -/
theorem magnitude?_point (fraction_digits : ∀ char ∈ fraction, char.isDigit = true)
    (fraction_ne_nil : fraction ≠ []) :
    magnitude? (whole ++ '.' :: (fraction ++ behind)) = some (Decimal.toRat
      ⟨Nat.ofDigitChars 10 (whole ++ fraction) 0, exponent - fraction.length⟩) := by
  obtain ⟨taken, dropped⟩ := digits_of_exponent? fraction_digits read
  rw [magnitude?, List.takeWhile_append_of_pos whole_digits,
    List.dropWhile_append_of_pos whole_digits]
  simp [-List.takeWhile_append_of_pos, -List.dropWhile_append_of_pos, taken, dropped, whole_ne_nil,
    fraction_ne_nil, read]

end

section

variable {digits : List Char} (all_digits : ∀ char ∈ digits, char.isDigit = true)
  (some_digits : digits ≠ [])

include all_digits some_digits

omit some_digits in
theorem isDigit_of_mem_padded (before behind : Nat) :
    ∀ char ∈ List.replicate before '0' ++ (digits ++ List.replicate behind '0'),
      char.isDigit = true := by
  intro char member
  simp only [List.mem_append, List.mem_replicate] at member
  rcases member with ⟨_, rfl⟩ | digit | ⟨_, rfl⟩
  · rfl
  · exact all_digits char digit
  · rfl

omit all_digits some_digits in
/-- Zeros in front of digits are worth nothing, and zeros at the end a power of ten. -/
theorem ofDigitChars_padded (digits : List Char) (before behind : Nat) :
    Nat.ofDigitChars 10 (List.replicate before '0' ++ (digits ++ List.replicate behind '0')) 0 =
      Nat.ofDigitChars 10 digits 0 * 10 ^ behind := by
  simp [Nat.ofDigitChars_append, Nat.ofDigitChars_replicate_zero, Nat.mul_comm]

/-- Digits before the point: zeros follow them up to the units. -/
theorem magnitude?_integral (fraction : Bool) {count : Nat} :
    magnitude? (digits ++ List.replicate count '0' ++ if fraction then ['.', '0'] else []) =
      some (Decimal.toRat ⟨Nat.ofDigitChars 10 digits 0, count⟩) := by
  have padded := isDigit_of_mem_padded all_digits 0 count
  rw [List.replicate_zero, List.nil_append] at padded
  have padded_ne_nil : digits ++ List.replicate count '0' ≠ [] := by simp [some_digits]
  cases fraction with
  | false =>
      have value := ofDigitChars_padded digits 0 count
      rw [List.replicate_zero, List.nil_append] at value
      refine (magnitude?_whole padded padded_ne_nil rfl).trans ?_
      rw [value, Decimal.toRat_mul, zero_add]
  | true =>
      have value := ofDigitChars_padded digits 0 (count + 1)
      rw [List.replicate_succ', ← List.append_assoc digits, List.replicate_zero,
        List.nil_append] at value
      have zero : ∀ char ∈ ['0'], char.isDigit = true := List.forall_mem_singleton.mpr rfl
      refine (@magnitude?_point _ ['0'] [] 0 padded padded_ne_nil rfl zero (by simp)).trans ?_
      rw [value, Decimal.toRat_mul]
      congr 3
      simp

/-- Digits behind the point: zeros stand before them, with the point behind the first one. -/
theorem magnitude?_small {count : Nat} :
    magnitude? ('0' :: '.' :: (List.replicate count '0' ++ digits)) =
      some (Decimal.toRat ⟨Nat.ofDigitChars 10 digits 0, -(count + digits.length)⟩) := by
  have padded := isDigit_of_mem_padded all_digits count 0
  have value := ofDigitChars_padded digits (count + 1) 0
  rw [List.replicate_zero, List.append_nil] at padded value
  have read := @magnitude?_point ['0'] (List.replicate count '0' ++ digits) [] 0
    (List.forall_mem_singleton.mpr rfl) (by simp) rfl padded (by simp [some_digits])
  rw [List.append_nil] at read
  refine read.trans ?_
  rw [← List.append_assoc, List.singleton_append, ← List.replicate_succ, value, Nat.pow_zero,
    Nat.mul_one, List.length_append, List.length_replicate]
  congr 3
  push_cast
  ring

/-- Digits on both sides of the point. -/
theorem magnitude?_inside {whole : Nat} (positive : 0 < whole) (inside : whole < digits.length) :
    magnitude? (digits.take whole ++ '.' :: digits.drop whole) =
      some (Decimal.toRat ⟨Nat.ofDigitChars 10 digits 0, whole - digits.length⟩) := by
  have front : ∀ char ∈ digits.take whole, char.isDigit = true :=
    fun char member => all_digits char (List.mem_of_mem_take member)
  have back : ∀ char ∈ digits.drop whole, char.isDigit = true :=
    fun char member => all_digits char (List.mem_of_mem_drop member)
  have read := @magnitude?_point _ _ [] 0 front (by simp [some_digits]; omega) rfl back
    (by simp; omega)
  rw [List.append_nil, List.take_append_drop, List.length_drop] at read
  refine read.trans ?_
  congr 3
  omega

/-- Wherever the point is set, the digits have the same value. -/
theorem magnitude?_setPositional (fraction : Bool) (leading : Int) :
    magnitude? (Decimal.setPositional fraction digits leading) =
      some (Decimal.toRat ⟨Nat.ofDigitChars 10 digits 0, leading + 1 - digits.length⟩) := by
  rw [Decimal.setPositional]
  split
  · rw [magnitude?_small all_digits some_digits]
    congr 3
    omega
  · simp only
    split
    · rw [magnitude?_integral all_digits some_digits]
      congr 3
      omega
    · rw [magnitude?_inside all_digits some_digits (by omega) (by omega)]
      congr 3
      omega

theorem magnitude?_setScientific (plus : Bool) (leading : Int) :
    magnitude? (Decimal.setScientific plus digits leading) =
      some (Decimal.toRat ⟨Nat.ofDigitChars 10 digits 0, leading + 1 - digits.length⟩) := by
  have read := exponent?_signed plus leading
  match digits, some_digits with
  | [digit], _ =>
      refine (magnitude?_whole all_digits (by simp) read).trans ?_
      simp
  | first :: second :: rest, _ =>
      have in_front : ∀ char ∈ [first], char.isDigit = true := by simp_all
      have behind : ∀ char ∈ second :: rest, char.isDigit = true := by simp_all
      refine (magnitude?_point in_front (by simp) read behind (by simp)).trans ?_
      have shifted : leading - ((second :: rest).length : Int) =
          leading + 1 - (first :: second :: rest).length := by
        simp only [List.length_cons]
        push_cast
        ring
      rw [shifted]
      rfl

end

/-- However a layout sets a decimal, the text denotes it. -/
theorem magnitude?_setDecimal (layout : Layout) (decimal : Decimal) :
    magnitude? (layout.setDecimal decimal) = some decimal.toRat := by
  have all_digits : ∀ char ∈ decimal.digits, char.isDigit = true := all_isDigit_toDigits _
  have some_digits : decimal.digits ≠ [] := Nat.toDigits_ne_nil
  have same : (⟨Nat.ofDigitChars 10 decimal.digits 0,
      decimal.leading + 1 - decimal.digits.length⟩ : Decimal) = decimal := by
    rw [Decimal.digits, Nat.ofDigitChars_ten_toDigits, Decimal.leading, Decimal.digits]
    congr 1
    ring
  rw [Layout.setDecimal]
  split
  · rw [magnitude?_setPositional all_digits some_digits, same]
  · rw [magnitude?_setScientific all_digits some_digits, same]

/-- A numeral without a sign is read as a whole. -/
theorem value?_of_magnitude? {text : List Char} {number : ℚ}
    (read : magnitude? text = some number) : value? text = some number := by
  unfold value?
  split
  · -- No digit stands in front of the minus sign.
    cases read
  · exact read

/-- A numeral with a minus sign if it is negative. -/
theorem value?_signed {text : List Char} {number : ℚ} (read : magnitude? text = some number)
    (negative : Prop) [Decidable negative] :
    value? ((if negative then ['-'] else []) ++ text) =
      some (if negative then -number else number) := by
  split
  · simp [value?, read]
  · exact value?_of_magnitude? read

/-- The characters of numerals. -/
def isMark (char : Char) : Bool :=
  char.isDigit || char ∈ ['.', 'e', '+', '-']

theorem isMark_of_isDigit {char : Char} (digit : char.isDigit = true) : isMark char = true := by
  rw [isMark, digit, Bool.true_or]

/-- However a layout sets a decimal, the text has no other characters than numerals have. -/
theorem isMark_of_mem_setDecimal (layout : Layout) (decimal : Decimal) :
    ∀ char ∈ layout.setDecimal decimal, isMark char = true := by
  intro char member
  rw [Layout.setDecimal] at member
  split at member
  · rcases Decimal.mem_setPositional member with rfl | rfl | digit
    · rfl
    · rfl
    · exact isMark_of_isDigit (all_isDigit_toDigits _ char digit)
  · rw [Decimal.setScientific, List.mem_append, List.mem_cons, List.mem_append] at member
    rcases member with front | rfl | sign | exponent
    · rcases Decimal.mem_significand front with rfl | digit
      · rfl
      · exact isMark_of_isDigit (all_isDigit_toDigits _ char digit)
    · rfl
    · split at sign
      · cases List.mem_singleton.mp sign
        rfl
      · split at sign
        · cases List.mem_singleton.mp sign
          rfl
        · cases sign
    · exact isMark_of_isDigit (all_isDigit_toDigits _ char exponent)

/-- Nothing in a numeral is reserved. -/
theorem escape_of_isMark {text : String} (all_marks : ∀ char ∈ text.toList, isMark char = true) :
    Html.escape text = text := by
  refine Html.escape_of_not_needsEscape (List.any_eq_false.mpr fun char member reserved => ?_)
  have mark := all_marks char member
  unfold Html.isReserved Html.entity? at reserved
  split at reserved <;> first | cases mark | cases reserved

end Numeral

end Stencil
