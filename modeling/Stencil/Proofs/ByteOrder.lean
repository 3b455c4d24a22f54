import Stencil.Table

/-!
# The order of names is the order of their bytes

Names are compared by the code points of their characters. In UTF-8 a greater code point has a
greater encoding, whatever follows it; so comparing the encoded bytes gives the same order, and
everything that lists the names of a table lists them in byte order.
-/

namespace Stencil

namespace Text

/-- The bytes of a text in UTF-8. -/
def utf8 (text : String) : List UInt8 :=
  text.toUTF8.data.toList

theorem utf8_eq_flatMap (text : String) :
    utf8 text = text.toList.flatMap String.utf8EncodeChar := by
  rw [utf8, String.toUTF8_eq_toByteArray, ← String.utf8Encode_toList, List.utf8Encode,
    List.data_toByteArray]

/-- A smaller first byte decides; equal ones leave it to the rest. -/
theorem ofNat_cons_lt {first second : Nat} (bound : second < 256) {rest more : List UInt8}
    (le : first ≤ second) (tie : first = second → rest < more) :
    UInt8.ofNat first :: rest < UInt8.ofNat second :: more := by
  rw [List.cons_lt_cons_iff, UInt8.lt_iff_toNat_lt, UInt8.toNat_ofNat_of_lt' bound,
    UInt8.toNat_ofNat_of_lt' (Nat.lt_of_le_of_lt le bound)]
  rcases Nat.lt_or_eq_of_le le with less | same
  · exact .inl less
  · exact .inr ⟨by rw [same], tie same⟩

/-- Of two characters the greater one has the greater encoding, whatever follows. -/
theorem utf8EncodeChar_append_lt {char other : Char} (before : char < other)
    (rest more : List UInt8) :
    String.utf8EncodeChar char ++ rest < String.utf8EncodeChar other ++ more := by
  have less : char.val.toNat < other.val.toNat := UInt32.lt_iff_toNat_lt.mp before
  have bound : other.val.toNat < 0x110000 := by
    have valid := other.valid
    simp only [UInt32.isValidChar, Nat.isValidChar] at valid
    omega
  -- There is a case for each pair of lengths. A longer encoding has a greater first byte, and
  -- encodings of one length are the digits of the code points to the base of 64.
  fun_cases String.utf8EncodeChar char <;> fun_cases String.utf8EncodeChar other
  all_goals
    repeat' refine ofNat_cons_lt (by omega) (by omega) fun _ => ?_
  all_goals omega

theorem flatMap_utf8EncodeChar_lt {chars others : List Char} (before : chars < others) :
    chars.flatMap String.utf8EncodeChar < others.flatMap String.utf8EncodeChar := by
  induction chars generalizing others with
  | nil =>
      cases others with
      | nil => exact absurd before (List.lt_irrefl _)
      | cons other others =>
          obtain ⟨byte, bytes, encoded⟩ :=
            List.exists_cons_of_ne_nil (String.utf8EncodeChar_ne_nil (c := other))
          rw [List.flatMap_nil, List.flatMap_cons, encoded]
          exact List.nil_lt_cons byte _
  | cons char chars ih =>
      cases others with
      | nil => exact absurd before (List.not_lt_nil _)
      | cons other others =>
          rw [List.flatMap_cons, List.flatMap_cons]
          rcases List.cons_lt_cons_iff.mp before with less | ⟨rfl, later⟩
          · exact utf8EncodeChar_append_lt less _ _
          · exact List.append_left_lt (ih later)

/-- Texts that are ordered by their characters are ordered by their bytes. -/
theorem utf8_lt {text other : String} (before : text < other) : utf8 text < utf8 other := by
  rw [utf8_eq_flatMap, utf8_eq_flatMap]
  exact flatMap_utf8EncodeChar_lt (String.lt_iff.mp before)

end Text

/-- A table lists its names in strictly increasing byte order. -/
theorem Table.names_utf8 {α : Type} (table : Table α) :
    table.names.Pairwise fun first second => Text.utf8 first < Text.utf8 second :=
  List.Pairwise.imp Text.utf8_lt table.ascending

end Stencil
