import Stencil.Proofs.Escaping
import Stencil.Scope

/-!
# Values that are read back from their text

A value whose numbers are integers of 64 bits, and whose containers are nested no more deeply than
the reader allows, is what the reader makes of its compact text. The reader takes a value from the
front of a text and leaves the rest to its caller, so the statement to prove is about a text with
something behind it (`Json.readValue_spell`). Only a number needs to know what stands there: it must
not go on with another digit, a point or an exponent.
-/

namespace Stencil

/-- Whether a number is an integer that a text can hold: unsigned or negative of 64 bits. -/
def Number.isExact : Number → Bool
  | .int value => -(Json.maxNegative : Int) ≤ value && value ≤ Json.maxSignificand
  | .float _ => false

namespace Json

/-! ## Strings -/

theorem hexValue?_digitChar :
    ∀ digit, digit < 16 → hexValue? (Nat.digitChar digit) = some digit := by
  decide

/-- A letter behind a backslash stands for the character that is written so. -/
theorem readEscape_letter {char letter : Char} (short : escapeLetter? char = some letter)
    (rest : List Char) : readEscape (letter :: rest) = .ok (char, rest) := by
  unfold escapeLetter? at short
  split at short <;> cases short <;> rfl

/-- A control character is read back from the two digits of its code. -/
theorem readCode_control {char : Char} (control : char.toNat < 0x20) (rest : List Char) :
    readCode ('0' :: '0' :: Nat.digitChar (char.toNat / 16) :: Nat.digitChar (char.toNat % 16) ::
      rest) = .ok (char, rest) := by
  have high := hexValue?_digitChar (char.toNat / 16) (by omega)
  have low := hexValue?_digitChar (char.toNat % 16) (by omega)
  have zero : hexValue? '0' = some 0 := by decide
  have found : hexCode? ('0' :: '0' :: Nat.digitChar (char.toNat / 16) ::
      Nat.digitChar (char.toNat % 16) :: rest) = some (char.toNat, rest) := by
    simp [hexCode?, zero, high, low, Nat.div_add_mod']
  have not_low : ¬ 0xDC00 ≤ char.toNat := by omega
  have not_high : ¬ 0xD800 ≤ char.toNat := by omega
  simp [readCode, readHexCode, found, not_low, not_high]

theorem readString_spellChar (char : Char) (bound : Nat) (rest : List Char) :
    readString (bound + 1) (spellChar char ++ rest) =
      (readString bound rest).map (char :: ·) := by
  unfold spellChar
  cases short : escapeLetter? char with
  | some letter => simp [readString, readEscape_letter short]
  | none =>
      have not_quote : char ≠ '"' := fun same => by simp [same, escapeLetter?] at short
      have not_backslash : char ≠ '\\' := fun same => by simp [same, escapeLetter?] at short
      by_cases control : char.toNat < 0x20
      · simp [readString, readEscape, control, readCode_control control]
      · simp [readString, control, not_quote, not_backslash]

/-- A string is read back up to its closing quote. -/
theorem readString_spell (chars : List Char) {bound : Nat} (enough : chars.length < bound)
    (rest : List Char) :
    readString bound (chars.flatMap spellChar ++ '"' :: rest) = .ok (chars, rest) := by
  induction chars generalizing bound with
  | nil =>
      obtain ⟨bound, rfl⟩ := Nat.exists_eq_add_one.mpr enough
      simp [readString]
  | cons char chars ih =>
      obtain ⟨bound, rfl⟩ := Nat.exists_eq_add_one.mpr (Nat.zero_lt_of_lt enough)
      rw [List.flatMap_cons, List.append_assoc, readString_spellChar,
        ih (Nat.lt_of_succ_lt_succ enough)]
      rfl

theorem spellString_append (text : String) (rest : List Char) :
    spellString text ++ rest = '"' :: (text.toList.flatMap spellChar ++ '"' :: rest) := by
  simp [spellString]

theorem length_lt_spellString (text : String) : text.length < (spellString text).length := by
  have spelled : text.toList.length ≤ (text.toList.flatMap spellChar).length := by
    induction text.toList with
    | nil => simp
    | cons char chars ih =>
        have positive : 1 ≤ (spellChar char).length := by
          unfold spellChar
          split
          · simp
          · split <;> simp
        simp only [List.flatMap_cons, List.length_append, List.length_cons]
        omega
  simp only [spellString, List.length_cons, List.length_append]
  simp only [String.length_toList] at spelled
  omega

/-! ## Numbers -/

/-- A text that is over, or goes on with what may stand behind a value. -/
def Closes : List Char → Prop
  | [] => True
  | first :: _ => first = ',' ∨ first = ']' ∨ first = '\x7d'

theorem Closes.no_digit {rest : List Char} (closes : Closes rest) :
    rest.head?.any Char.isDigit = false := by
  cases rest with
  | nil => rfl
  | cons first _ => rcases closes with rfl | rfl | rfl <;> rfl

theorem le_ofDigitChars (digits : List Char) (start : Nat) :
    start ≤ Nat.ofDigitChars 10 digits start := by
  induction digits generalizing start with
  | nil => simp [Nat.ofDigitChars]
  | cons digit digits ih =>
      have rest := ih (10 * start + (digit.toNat - '0'.toNat))
      rw [Nat.ofDigitChars_cons]
      omega

/-- Digits whose value fits the significand are all taken into it. -/
theorem wholeDigits_append {digits rest : List Char}
    (all_digits : ∀ char ∈ digits, char.isDigit = true) {significand : Nat}
    (fits : Nat.ofDigitChars 10 digits significand ≤ maxSignificand) (closes : Closes rest) :
    wholeDigits significand (digits ++ rest) =
      (Nat.ofDigitChars 10 digits significand, 0, rest) := by
  induction digits generalizing significand with
  | nil =>
      cases rest with
      | nil => rfl
      | cons first others =>
          have stops : first.isDigit = false := closes.no_digit
          simp [wholeDigits, stops, Nat.ofDigitChars]
  | cons digit digits ih =>
      have is_digit : digit.isDigit = true := all_digits digit List.mem_cons_self
      have next : 10 * significand + (digit.toNat - '0'.toNat) =
          significand * 10 + digitValue digit := by
        rw [Nat.mul_comm, digitValue]
      rw [Nat.ofDigitChars_cons, next] at fits ⊢
      have taken : significand * 10 + digitValue digit ≤ maxSignificand :=
        Nat.le_trans (le_ofDigitChars digits _) fits
      have others := ih (fun char member => all_digits char (List.mem_cons_of_mem _ member)) fits
      simp only [List.cons_append, wholeDigits, is_digit, taken, if_true, others]

theorem exists_toDigits_cons (magnitude : Nat) :
    ∃ first others, Nat.toDigits 10 magnitude = first :: others ∧ first.isDigit = true := by
  cases digits : Nat.toDigits 10 magnitude with
  | nil => exact absurd digits Nat.toDigits_ne_nil
  | cons first others =>
      have member : first ∈ Nat.toDigits 10 magnitude := digits ▸ List.mem_cons_self
      exact ⟨first, others, rfl, Nat.isDigit_of_mem_toDigits (by omega) (by omega) member⟩

/-- Only zero is written with a zero in front. -/
theorem toDigits_ne_zero_cons {magnitude : Nat} (positive : 0 < magnitude) (others : List Char) :
    Nat.toDigits 10 magnitude ≠ '0' :: others := by
  induction magnitude using Nat.strongRecOn generalizing others with
  | ind magnitude ih =>
      by_cases small : magnitude < 10
      · rw [Nat.toDigits_of_lt_base small]
        have all : ∀ digit, digit < 10 → 0 < digit → Nat.digitChar digit ≠ '0' := by decide
        simp [all magnitude small positive]
      · rw [Nat.toDigits_of_base_le (by omega) (by omega)]
        intro leading
        cases front : Nat.toDigits 10 (magnitude / 10) with
        | nil => exact Nat.toDigits_ne_nil front
        | cons first rest =>
            rw [front, List.cons_append, List.cons.injEq] at leading
            obtain ⟨rfl, _⟩ := leading
            exact ih (magnitude / 10) (by omega) (by omega) rest front

/-- The digits of a magnitude of 64 bits are read as an integer. -/
theorem readMagnitude_toDigits (negative : Bool) {magnitude : Nat}
    (fits : magnitude ≤ maxSignificand) {rest : List Char} (closes : Closes rest) :
    readMagnitude negative (Nat.toDigits 10 magnitude ++ rest) =
      .ok (integral negative magnitude, rest) := by
  have all_digits : ∀ char ∈ Nat.toDigits 10 magnitude, char.isDigit = true :=
    fun char member => Nat.isDigit_of_mem_toDigits (by omega) (by omega) member
  have whole : wholeDigits 0 (Nat.toDigits 10 magnitude ++ rest) = (magnitude, 0, rest) := by
    rw [wholeDigits_append all_digits (by rwa [Nat.ofDigitChars_ten_toDigits]) closes,
      Nat.ofDigitChars_ten_toDigits]
  obtain ⟨first, others, digits, first_digit⟩ := exists_toDigits_cons magnitude
  have no_zero : (first = '0' && (others ++ rest).head?.any Char.isDigit) = false := by
    rcases Nat.eq_zero_or_pos magnitude with rfl | positive
    · obtain ⟨rfl, rfl⟩ : '0' = first ∧ [] = others := by simpa using digits
      exact closes.no_digit
    · have different : first ≠ '0' := fun same =>
        toDigits_ne_zero_cons positive others (same ▸ digits)
      simp [different]
  rw [digits, List.cons_append] at whole ⊢
  simp only [readMagnitude, first_digit, no_zero, whole]
  cases rest with
  | nil => rfl
  | cons next _ => rcases closes with rfl | rfl | rfl <;> rfl

/-! ## Values -/

mutual

/-- How many containers are nested in a value, itself counted. -/
def nesting : Json → Nat
  | .null | .bool _ | .number _ | .string _ => 0
  | .array items => nestingItems items + 1
  | .object fields => nestingFields fields + 1

/-- How many containers are nested in one of several values. -/
def nestingItems : List Json → Nat
  | [] => 0
  | item :: items => max item.nesting (nestingItems items)

/-- How many containers are nested in the value of one of several fields. -/
def nestingFields : List (String × Json) → Nat
  | [] => 0
  | (_, value) :: fields => max value.nesting (nestingFields fields)

end

mutual

/--
Whether a text can hold a value exactly: its numbers are integers of 64 bits, and the fields of its
objects stand in the order of a table, in which every reader and writer of fields keeps them.
-/
def isExact : Json → Bool
  | .null | .bool _ | .string _ => true
  | .number value => value.isExact
  | .array items => areExact items
  | .object fields => decide (Entries.Ascending fields) && haveExact fields

/-- Whether several values are exact. -/
def areExact : List Json → Bool
  | [] => true
  | item :: items => item.isExact && areExact items

/-- Whether several fields have exact values. -/
def haveExact : List (String × Json) → Bool
  | [] => true
  | (_, value) :: fields => value.isExact && haveExact fields

end

theorem skipSpace_of_solid {first : Char} (solid : isSpace first = false) (others : List Char) :
    skipSpace (first :: others) = first :: others := by
  simp [skipSpace, solid]

/-- A text that may start with an element of an array. -/
def StartsItem : List Char → Prop
  | [] => False
  | first :: _ => isSpace first = false ∧ first ≠ ']'

theorem startsItem_of_digit {first : Char} (digit : first.isDigit = true) (others : List Char) :
    StartsItem (first :: others) := by
  have not_at : ∀ other : Char, other.isDigit = false → first ≠ other := by
    rintro other stops rfl
    rw [digit] at stops
    cases stops
  have solid : isSpace first = false := by
    simp [isSpace, not_at ' ' rfl, not_at '\n' rfl, not_at '\t' rfl, not_at '\r' rfl]
  exact ⟨solid, not_at ']' rfl⟩

theorem readValue_quote (bound room : Nat) (chars : List Char) :
    readValue bound room ('"' :: chars) =
      (readString bound chars).map fun text => .string (String.ofList text) := by
  rw [readValue]
  rfl

theorem readValue_minus (bound room : Nat) (chars : List Char) :
    readValue bound room ('-' :: chars) = (readMagnitude true chars).map .number := by
  rw [readValue]
  rfl

theorem readValue_bracket (bound room : Nat) (chars : List Char) :
    readValue bound (room + 1) ('[' :: chars) =
      (readItems (readValue bound room) bound chars).map .array := by
  rw [readValue]
  rfl

theorem readValue_brace (bound room : Nat) (chars : List Char) :
    readValue bound (room + 1) ('\x7b' :: chars) =
      (readFields (readValue bound room) bound chars).map fun fields =>
        .object (Table.ofList fields).entries := by
  rw [readValue]
  rfl

theorem readValue_of_digit {first : Char} (digit : first.isDigit = true) (others : List Char)
    (bound room : Nat) :
    readValue bound room (first :: others) =
      (readMagnitude false (first :: others)).map .number := by
  rw [readValue, skipSpace_of_solid (startsItem_of_digit digit others).1]
  split
  case h_9 same =>
    cases same
    rw [if_pos digit]
  -- A digit is none of the characters that the other cases are about.
  all_goals
    next same => cases same <;> cases digit

/-- No value is written with a blank or a closing bracket in front. -/
theorem startsItem_spell (value : Json) (exact : value.isExact = true) (rest : List Char) :
    StartsItem (value.spell ++ rest) := by
  cases value with
  | null => exact ⟨rfl, by decide⟩
  | bool value => cases value <;> exact ⟨rfl, by decide⟩
  | number value =>
      cases value with
      | float value => cases exact
      | int value =>
          cases value with
          | ofNat magnitude =>
              obtain ⟨first, others, digits, digit⟩ := exists_toDigits_cons magnitude
              simp only [spell, spellNumber, spellInt, digits]
              exact startsItem_of_digit digit _
          | negSucc magnitude => exact ⟨rfl, by decide⟩
  | string value => exact ⟨rfl, by decide⟩
  | array items => cases items <;> exact ⟨rfl, by decide⟩
  | object fields => cases fields <;> exact ⟨rfl, by decide⟩

theorem readMoreItems_of_startsItem {chars : List Char} (starts : StartsItem chars)
    (readItem : List Char → Reading Json) (bound : Nat) :
    readMoreItems readItem (bound + 1) (',' :: chars) =
      (readItem chars).andThen fun item rest =>
        (readMoreItems readItem bound rest).map (item :: ·) := by
  cases chars with
  | nil => exact starts.elim
  | cons first others =>
      obtain ⟨solid, not_end⟩ := starts
      have comma : skipSpace (',' :: first :: others) = ',' :: first :: others := rfl
      simp [readMoreItems, comma, skipSpace_of_solid solid, not_end]

/-- The first element is read like the others, which have a comma before them. -/
theorem readItems_of_startsItem {chars : List Char} (starts : StartsItem chars)
    (readItem : List Char → Reading Json) (bound : Nat) :
    readItems readItem bound chars = readMoreItems readItem (bound + 1) (',' :: chars) := by
  rw [readMoreItems_of_startsItem starts]
  cases chars with
  | nil => exact starts.elim
  | cons first others =>
      obtain ⟨solid, not_end⟩ := starts
      simp [readItems, skipSpace_of_solid solid, not_end]

theorem readField_spell {readItem : List Char → Reading Json} {limit : Nat} {name : String}
    (enough : name.length < limit) {value : Json} {chars rest : List Char}
    (read : readItem chars = .ok (value, rest)) :
    readField readItem limit (spellString name ++ ':' :: chars) = .ok ((name, value), rest) := by
  have enough_chars : name.toList.length < limit := by rwa [String.length_toList]
  rw [spellString_append, readField, readString_spell _ enough_chars, Reading.ok_andThen]
  have colon : skipSpace (':' :: chars) = ':' :: chars := rfl
  simp [colon, read]

theorem readMoreFields_of_name (readItem : List Char → Reading Json) (limit bound : Nat)
    (name : String) (chars : List Char) :
    readMoreFields readItem limit (bound + 1) (',' :: (spellString name ++ chars)) =
      (readField readItem limit (spellString name ++ chars)).andThen fun field rest =>
        (readMoreFields readItem limit bound rest).map (field :: ·) := rfl

/-- The first field is read like the others, which have a comma before them. -/
theorem readFields_of_name (readItem : List Char → Reading Json) (bound : Nat) (name : String)
    (chars : List Char) :
    readFields readItem bound (spellString name ++ chars) =
      readMoreFields readItem bound (bound + 1) (',' :: (spellString name ++ chars)) := rfl

theorem readValue_spellString {text : String} {bound : Nat}
    (short : (spellString text).length < bound) (room : Nat) (rest : List Char) :
    readValue bound room (spellString text ++ rest) = .ok (.string text, rest) := by
  have enough : text.toList.length < bound := by
    have longer := length_lt_spellString text
    rw [String.length_toList]
    omega
  rw [spellString_append, readValue_quote, readString_spell _ enough, Reading.ok_map,
    String.ofList_toList]

theorem closes_spellItems (items : List Json) (rest : List Char) :
    Closes (spellItems items ++ ']' :: rest) := by
  cases items with
  | nil => exact .inr (.inl rfl)
  | cons item items => exact .inl rfl

theorem closes_spellFields (fields : List (String × Json)) (rest : List Char) :
    Closes (spellFields fields ++ '\x7d' :: rest) := by
  cases fields with
  | nil => exact .inr (.inr rfl)
  | cons field fields => exact .inl rfl

theorem length_le_spellItems (items : List Json) : items.length ≤ (spellItems items).length := by
  induction items with
  | nil => simp
  | cons item items ih =>
      simp only [spellItems, List.length_cons, List.length_append]
      omega

theorem length_le_spellFields (fields : List (String × Json)) :
    fields.length ≤ (spellFields fields).length := by
  induction fields with
  | nil => simp
  | cons field fields ih =>
      simp only [spellFields, List.length_cons, List.length_append]
      omega

/-- An integer of 64 bits is read back. -/
theorem readValue_spellInt {value : Int} (exact : (Number.int value).isExact = true)
    (bound room : Nat) {rest : List Char} (closes : Closes rest) :
    readValue bound room (spellInt value ++ rest) = .ok (.number (.int value), rest) := by
  simp only [Number.isExact, Bool.and_eq_true, decide_eq_true_eq] at exact
  obtain ⟨least, greatest⟩ := exact
  cases value with
  | ofNat magnitude =>
      have fits : magnitude ≤ maxSignificand := Int.ofNat_le.mp greatest
      obtain ⟨first, others, digits, digit⟩ := exists_toDigits_cons magnitude
      have read := readMagnitude_toDigits false fits closes
      rw [digits] at read
      rw [spellInt, digits, List.cons_append, readValue_of_digit digit, ← List.cons_append, read]
      rfl
  | negSucc magnitude =>
      have small : magnitude + 1 ≤ maxNegative := by omega
      have fits : magnitude + 1 ≤ maxSignificand := Nat.le_trans small (by decide)
      have read := readMagnitude_toDigits true fits closes
      have negative : integral true (magnitude + 1) = .int (.negSucc magnitude) := by
        have not_great : ¬ maxNegative < magnitude + 1 := Nat.not_lt.mpr small
        simp [integral, not_great, Int.negSucc_eq]
      rw [spellInt, List.cons_append, readValue_minus, read, negative]
      rfl

mutual

/-- A value is read back from the front of a text in which nothing else goes on behind it. -/
theorem readValue_spell (bound : Nat) : (value : Json) → value.isExact = true → (room : Nat) →
    value.nesting ≤ room → value.spell.length < bound → (rest : List Char) → Closes rest →
      readValue bound room (value.spell ++ rest) = .ok (value, rest)
  | .null, _, _, _, _, _, _ => by
      rw [readValue]
      rfl
  | .bool true, _, _, _, _, _, _ => by
      rw [readValue]
      rfl
  | .bool false, _, _, _, _, _, _ => by
      rw [readValue]
      rfl
  | .number (.int _), exact, room, _, _, _, closes => readValue_spellInt exact bound room closes
  | .string text, _, room, _, short, rest, _ => readValue_spellString short room rest
  | .array [], _, _ + 1, _, _, _, _ => rfl
  | .array (item :: items), exact, room + 1, fits, short, rest, _ => by
      have short_items : (spellItems (item :: items)).length < bound := by
        simp only [spell, spellItems, List.length_cons, List.length_append] at short ⊢
        omega
      have enough := length_le_spellItems (item :: items)
      have items_read := readMoreItems_spell bound (item :: items) exact room
        (Nat.le_of_succ_le_succ fits) short_items (bound + 1) (by omega) rest
      simp only [isExact, areExact, Bool.and_eq_true] at exact
      simp only [spell, spellItems, List.cons_append, List.append_assoc] at items_read ⊢
      rw [readValue_bracket, readItems_of_startsItem (startsItem_spell item exact.1 _)]
      exact congrArg (Reading.map · Json.array) items_read
  | .object [], _, _ + 1, _, _, _, _ => rfl
  | .object ((name, value) :: fields), exact, room + 1, fits, short, rest, _ => by
      have short_fields : (spellFields ((name, value) :: fields)).length < bound := by
        simp only [spell, spellFields, List.length_cons, List.length_append] at short ⊢
        omega
      simp only [isExact, Bool.and_eq_true, decide_eq_true_eq] at exact
      have enough := length_le_spellFields ((name, value) :: fields)
      have fields_read := readMoreFields_spell bound ((name, value) :: fields) exact.2 room
        (Nat.le_of_succ_le_succ fits) short_fields (bound + 1) (by omega) rest
      simp only [spell, spellFields, List.cons_append, List.append_assoc] at fields_read ⊢
      rw [readValue_brace, readFields_of_name]
      refine (congrArg (Reading.map · _) fields_read).trans ?_
      rw [Reading.ok_map, Table.entries_ofList exact.1]

/-- Elements of an array with commas before them are read back up to the bracket. -/
theorem readMoreItems_spell (bound : Nat) : (items : List Json) → areExact items = true →
    (room : Nat) → nestingItems items ≤ room → (spellItems items).length < bound →
      (loop : Nat) → items.length < loop → (rest : List Char) →
        readMoreItems (readValue bound room) loop (spellItems items ++ ']' :: rest) =
          .ok (items, rest)
  | [], _, _, _, _, _ + 1, _, _ => rfl
  | item :: items, exact, room, fits, short, loop + 1, enough, rest => by
      simp only [areExact, Bool.and_eq_true] at exact
      obtain ⟨item_fits, items_fit⟩ := Nat.max_le.mp fits
      simp only [spellItems, List.length_cons, List.length_append] at short
      have first := readValue_spell bound item exact.1 room item_fits (by omega) _
        (closes_spellItems items rest)
      have others := readMoreItems_spell bound items exact.2 room items_fit (by omega) loop
        (Nat.lt_of_succ_lt_succ enough) rest
      simp only [spellItems, List.cons_append, List.append_assoc]
      rw [readMoreItems_of_startsItem (startsItem_spell item exact.1 _), first,
        Reading.ok_andThen, others, Reading.ok_map]

/-- Fields of an object with commas before them are read back up to the brace. -/
theorem readMoreFields_spell (bound : Nat) : (fields : List (String × Json)) →
    haveExact fields = true → (room : Nat) → nestingFields fields ≤ room →
      (spellFields fields).length < bound → (loop : Nat) → fields.length < loop →
        (rest : List Char) →
          readMoreFields (readValue bound room) bound loop (spellFields fields ++ '\x7d' :: rest) =
            .ok (fields, rest)
  | [], _, _, _, _, _ + 1, _, _ => rfl
  | (name, value) :: fields, exact, room, fits, short, loop + 1, enough, rest => by
      simp only [haveExact, Bool.and_eq_true] at exact
      obtain ⟨value_fits, fields_fit⟩ := Nat.max_le.mp fits
      simp only [spellFields, List.length_cons, List.length_append] at short
      have short_name : name.length < bound := by
        have longer := length_lt_spellString name
        omega
      have first := readValue_spell bound value exact.1 room value_fits (by omega) _
        (closes_spellFields fields rest)
      have others := readMoreFields_spell bound fields exact.2 room fields_fit (by omega) loop
        (Nat.lt_of_succ_lt_succ enough) rest
      simp only [spellFields, List.cons_append, List.append_assoc]
      rw [readMoreFields_of_name, readField_spell short_name first, Reading.ok_andThen, others,
        Reading.ok_map]

end

/-- The compact text of a value stands for the value. -/
theorem parse_compact {value : Json} (exact : value.isExact = true)
    (shallow : value.nesting ≤ maxDepth) : parse value.compact = .ok value := by
  have read := readValue_spell (value.spell.length + 1) value exact maxDepth shallow
    (Nat.lt_succ_self _) [] trivial
  rw [List.append_nil] at read
  have whole : readText value.compact.toList = .ok value := by
    simp [readText, compact, read, skipSpace]
  rw [parse, whole]

/--
A JSON value is what its text stands for, if its numbers are integers of 64 bits and at most 127
containers are nested in it. An object that was escaped into HTML is read back as a context, and as
globals, with the same variables once the entities are decoded. Anything else than an object is
refused, in an error that shows its compact text.
-/
theorem embedded_value_reads_back (value : Json) (exact : value.isExact = true)
    (shallow : value.nesting ≤ 127) (globals : Table Json) :
    (∀ fields, value = .object fields → ∃ vars : Table Json, vars.entries = fields ∧
      Scope.read (Html.decode (Value.json value).toContent.escape.text) globals =
        .ok { vars, globals } ∧
      Scope.readGlobals (Html.decode (Value.json value).toContent.escape.text) = .ok vars) ∧
    ((∀ fields, value ≠ .object fields) →
      Scope.read value.compact globals = .error (.notAnObject value) ∧
      Scope.readGlobals value.compact = .error (.notAnObject value) ∧
      (RenderError.notAnObject value).message =
        "expected a JSON object, got: " ++ value.compact) := by
  have read : parse value.compact = .ok value := parse_compact exact shallow
  constructor
  · rintro fields rfl
    have shown : Html.decode (Value.json (.object fields)).toContent.escape.text =
        (Json.object fields).compact := Html.decode_escape _
    rw [shown]
    simp only [isExact, Bool.and_eq_true, decide_eq_true_eq] at exact
    refine ⟨.ofList fields, Table.entries_ofList exact.1, ?_, ?_⟩
    · rw [Scope.read, parseObject, read]
      rfl
    · rw [Scope.readGlobals, parseObject, read]
  · intro not_object
    have refused : ∀ malformed, parseObject malformed value.compact =
        .error (.notAnObject value) := by
      intro malformed
      rw [parseObject, read]
      cases value with
      | object fields => exact absurd rfl (not_object fields)
      | _ => rfl
    refine ⟨?_, refused _, rfl⟩
    rw [Scope.read, refused]
    rfl

/-- A text in a number of lists. -/
def boxed (text : String) : Nat → Json
  | 0 => .string text
  | boxes + 1 => .array [boxed text boxes]

/-- A context with the greatest and the least integers, hostile texts and the deepest nesting. -/
def inventory : Table Json where
  entries := [
    ("", .array [.number (.int 18446744073709551615), .number (.int (-9223372036854775808))]),
    ("\"</script>&lt;", .object [("a\nb", .null), ("a\\b", .bool false)]),
    ("größe", boxed "\x00\x1f\x7f\t\"\\/&amp;😀" 126)]
  ascending := by decide

theorem inventory_reads_back :
    (Json.object inventory.entries).nesting = 127 ∧
    Scope.read (Html.decode (Value.json (.object inventory.entries)).toContent.escape.text) ∅ =
      .ok { vars := inventory } ∧
    Scope.read (boxed "" 127).compact ∅ = .error (.notAnObject (boxed "" 127)) := by
  have deep : (Json.object inventory.entries).nesting = 127 := by decide +kernel
  obtain ⟨accepted, _⟩ := embedded_value_reads_back (.object inventory.entries)
    (by decide +kernel) (Nat.le_of_eq deep) ∅
  obtain ⟨_, refused⟩ := embedded_value_reads_back (boxed "" 127) (by decide +kernel)
    (by decide +kernel) ∅
  have not_object : ∀ fields, boxed "" 127 ≠ .object fields := by
    intro fields same
    cases same
  obtain ⟨vars, same, read, _⟩ := accepted _ rfl
  obtain rfl : vars = inventory := Table.ext same
  exact ⟨deep, read, (refused not_object).1⟩

end Json

end Stencil
