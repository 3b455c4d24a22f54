import Mathlib.Data.String.Basic
import Stencil.Proofs.Flattening

/-!
# Escaping and its inverse

Escaping copies a text up to the first reserved character and rewrites the rest. The copy is cut off
at a byte offset, which never falls inside of a character (`Html.isValid_reservedOffset?`), so all
in all every character is replaced by its entity or by itself (`Html.toList_escape`).

Decoding reads a text once, from left to right, and puts a character in the place of each entity.
It undoes escaping, although the text may have held entities before it was escaped. What can come
out of escaping at all is told by a condition on the text alone (`Html.IsEscaped`).
-/

namespace Stencil

namespace Html

/-! ## What escaping amounts to -/

theorem escapeChar_of_not_isReserved {char : Char} (plain : isReserved char = false) :
    escapeChar char = [char] := by
  have absent : entity? char = none := by simpa [isReserved] using plain
  simp [escapeChar, absent]

theorem flatMap_escapeChar_of_plain {chars : List Char}
    (plain : ∀ char ∈ chars, isReserved char = false) : chars.flatMap escapeChar = chars := by
  induction chars with
  | nil => rfl
  | cons char chars ih =>
      obtain ⟨first, others⟩ := List.forall_mem_cons.mp plain
      rw [List.flatMap_cons, escapeChar_of_not_isReserved first, ih others]
      rfl

theorem reservedOffset?_eq_none_iff {chars : List Char} :
    reservedOffset? chars = none ↔ ∀ char ∈ chars, isReserved char = false := by
  induction chars with
  | nil => simp [reservedOffset?]
  | cons char chars ih =>
      rw [reservedOffset?, List.forall_mem_cons, ← ih]
      cases isReserved char <;> simp

/-- The offset is the length of what stands before the first reserved character. -/
theorem exists_split_of_reservedOffset? {chars : List Char} {offset : Nat}
    (found : reservedOffset? chars = some offset) :
    ∃ front back, chars = front ++ back ∧ offset = String.utf8Len front ∧
      ∀ char ∈ front, isReserved char = false := by
  induction chars generalizing offset with
  | nil => cases found
  | cons char chars ih =>
      rw [reservedOffset?] at found
      split at found
      · cases found
        exact ⟨[], char :: chars, rfl, rfl, by simp⟩
      · next plain =>
          obtain ⟨later, found_later, rfl⟩ := Option.map_eq_some_iff.mp found
          obtain ⟨front, back, rfl, rfl, others⟩ := ih found_later
          refine ⟨char :: front, back, rfl, ?_, ?_⟩
          · simp [Nat.add_comm]
          · exact List.forall_mem_cons.mpr ⟨by simpa using plain, others⟩

/-- The text is cut between two characters. -/
theorem isValid_reservedOffset? {text : String} {offset : Nat}
    (found : reservedOffset? text.toList = some offset) :
    (⟨offset⟩ : String.Pos.Raw).IsValid text := by
  obtain ⟨front, back, split, rfl, _⟩ := exists_split_of_reservedOffset? found
  have joined : text = String.ofList front ++ String.ofList back := by
    rw [← String.ofList_append, ← split, String.ofList_toList]
  have boundary := (String.Pos.splits_ofEqAppend joined).offset_eq_rawEndPos
  rw [String.rawEndPos_ofList] at boundary
  rw [← boundary]
  exact (String.Pos.ofEqAppend joined).isValid

theorem toList_escapeOnto (written : String) (chars : List Char) :
    (escapeOnto written chars).toList = written.toList ++ chars.flatMap escapeChar := by
  induction chars generalizing written with
  | nil => simp [escapeOnto]
  | cons char chars ih =>
      rw [escapeOnto, List.foldl_cons, ← escapeOnto, ih, List.flatMap_cons, escapeChar]
      cases entity? char <;> simp

/-- Escaping replaces every character by its entity or by itself. -/
@[simp]
theorem toList_escape (text : String) : (escape text).toList = text.toList.flatMap escapeChar := by
  rw [escape]
  cases found : reservedOffset? text.toList with
  | none => exact (flatMap_escapeChar_of_plain (reservedOffset?_eq_none_iff.mp found)).symm
  | some offset =>
      obtain ⟨front, back, split, rfl, plain⟩ := exists_split_of_reservedOffset? found
      have joined : text = String.ofList (front ++ back) := by
        rw [← split, String.ofList_toList]
      have copied : String.Pos.Raw.extract text 0 ⟨String.utf8Len front⟩ = String.ofList front := by
        simpa [joined] using String.extract_of_valid [] front back
      have rewritten : String.Pos.Raw.extract text ⟨String.utf8Len front⟩ text.rawEndPos =
          String.ofList back := by
        rw [joined, String.rawEndPos_ofList, String.utf8Len_append]
        simpa using String.extract_of_valid front back []
      simp only [copied, rewritten, toList_escapeOnto, String.toList_ofList, split,
        List.flatMap_append, flatMap_escapeChar_of_plain plain]

@[simp]
theorem escape_append (left right : String) :
    escape (left ++ right) = escape left ++ escape right := by
  apply String.toList_injective
  simp

/-- Escaping leaves a text without reserved characters alone. -/
theorem escape_of_not_needsEscape {text : String} (plain : needsEscape text = false) :
    escape text = text := by
  apply String.toList_injective
  rw [toList_escape, flatMap_escapeChar_of_plain]
  simpa [needsEscape] using plain

/-! ## Decoding -/

/-- Characters with every entity, from left to right, replaced by what it stands for. -/
def decodeChars : List Char → List Char
  | '&' :: 'a' :: 'm' :: 'p' :: ';' :: rest => '&' :: decodeChars rest
  | '&' :: 'l' :: 't' :: ';' :: rest => '<' :: decodeChars rest
  | '&' :: 'g' :: 't' :: ';' :: rest => '>' :: decodeChars rest
  | '&' :: '#' :: '3' :: '9' :: ';' :: rest => '\'' :: decodeChars rest
  | '&' :: '#' :: '3' :: '4' :: ';' :: rest => '"' :: decodeChars rest
  | char :: rest => char :: decodeChars rest
  | [] => []

/-- A text with every entity, from left to right, replaced by what it stands for. -/
def decode (html : String) : String :=
  String.ofList (decodeChars html.toList)

theorem decodeChars_cons {char : Char} (plain : char ≠ '&') (rest : List Char) :
    decodeChars (char :: rest) = char :: decodeChars rest := by
  rw [decodeChars.eq_def]
  split <;> simp_all

/-- What stands for a character is decoded to it, and decoding goes on behind it. -/
theorem decodeChars_escapeChar (char : Char) (rest : List Char) :
    decodeChars (escapeChar char ++ rest) = char :: decodeChars rest := by
  rw [escapeChar]
  fun_cases entity? char with
  | case6 => exact decodeChars_cons (by assumption) rest
  | _ => rfl

theorem decodeChars_flatMap_escapeChar (chars : List Char) :
    decodeChars (chars.flatMap escapeChar) = chars := by
  induction chars with
  | nil => rfl
  | cons char chars ih => rw [List.flatMap_cons, decodeChars_escapeChar, ih]

/-- Decoding undoes escaping. -/
@[simp]
theorem decode_escape (text : String) : decode (escape text) = text := by
  rw [decode, toList_escape, decodeChars_flatMap_escapeChar, String.ofList_toList]

theorem escape_injective : Function.Injective escape :=
  Function.LeftInverse.injective decode_escape

/-! ## What escaping can give -/

/-- The entities. -/
def entities : List String :=
  ["&amp;", "&lt;", "&gt;", "&#39;", "&#34;"]

/-- No character opens a tag or ends a quotation, and every ampersand is the start of an entity. -/
structure IsEscaped (chars : List Char) : Prop where
  plain : ∀ char ∈ ['<', '>', '\'', '"'], char ∉ chars
  ampersand : ∀ before after, chars = before ++ '&' :: after →
    ∃ entity ∈ entities, entity.toList <+: '&' :: after

/-- A character stands for itself, or it has an entity, with one ampersand, which is in front. -/
theorem escapeChar_cases (char : Char) :
    (escapeChar char = [char] ∧ char ∉ ['&', '<', '>', '\'', '"']) ∨
      ∃ entity ∈ entities, ∃ tail, escapeChar char = '&' :: tail ∧ entity.toList = '&' :: tail ∧
        ∀ other ∈ ['&', '<', '>', '\'', '"'], other ∉ tail := by
  rw [escapeChar]
  fun_cases entity? char with
  | case1 => exact .inr ⟨"&amp;", by decide, ['a', 'm', 'p', ';'], rfl, rfl, by simp⟩
  | case2 => exact .inr ⟨"&lt;", by decide, ['l', 't', ';'], rfl, rfl, by simp⟩
  | case3 => exact .inr ⟨"&gt;", by decide, ['g', 't', ';'], rfl, rfl, by simp⟩
  | case4 => exact .inr ⟨"&#39;", by decide, ['#', '3', '9', ';'], rfl, rfl, by simp⟩
  | case5 => exact .inr ⟨"&#34;", by decide, ['#', '3', '4', ';'], rfl, rfl, by simp⟩
  | case6 => exact .inl ⟨rfl, by simp_all⟩

/-- Every entity is what some character is escaped to. -/
theorem exists_escapeChar_of_mem_entities {entity : String} (member : entity ∈ entities) :
    ∃ char, escapeChar char = entity.toList := by
  simp only [entities, List.mem_cons, List.not_mem_nil, or_false] at member
  rcases member with rfl | rfl | rfl | rfl | rfl
  · exact ⟨'&', rfl⟩
  · exact ⟨'<', rfl⟩
  · exact ⟨'>', rfl⟩
  · exact ⟨'\'', rfl⟩
  · exact ⟨'"', rfl⟩

/-- An ampersand behind characters that are none stands in what follows them. -/
theorem exists_ampersand_behind {front rest before after : List Char} (absent : '&' ∉ front)
    (split : front ++ rest = before ++ '&' :: after) :
    ∃ between, before = front ++ between ∧ rest = between ++ '&' :: after := by
  induction front generalizing before with
  | nil => exact ⟨before, rfl, split⟩
  | cons char front ih =>
      cases before with
      | nil =>
          have same : char = '&' := (List.cons.inj split).1
          exact absurd (same ▸ List.mem_cons_self) absent
      | cons first before =>
          obtain ⟨rfl, rest_split⟩ := List.cons.inj split
          have absent_front : '&' ∉ front := fun member => absent (List.mem_cons_of_mem _ member)
          obtain ⟨between, rfl, rest_eq⟩ := ih absent_front rest_split
          exact ⟨between, rfl, rest_eq⟩

namespace IsEscaped

/-- One more character keeps an escaped text escaped. -/
theorem escapeChar_append {rest : List Char} (escaped : IsEscaped rest) (char : Char) :
    IsEscaped (escapeChar char ++ rest) := by
  rcases escapeChar_cases char with ⟨same, plain⟩ | ⟨entity, listed, tail, same, spelled, plain⟩
  · simp only [List.mem_cons, List.not_mem_nil, or_false, not_or] at plain
    rw [same]
    constructor
    · intro other reserved member
      rcases List.mem_cons.mp member with rfl | later
      · simp_all
      · exact escaped.plain other reserved later
    · intro before after split
      have absent : '&' ∉ [char] := by simpa using Ne.symm plain.1
      obtain ⟨between, _, rest_split⟩ := exists_ampersand_behind absent split
      exact escaped.ampersand between after rest_split
  · rw [same]
    constructor
    · intro other reserved member
      have not_ampersand : other ≠ '&' := by
        rintro rfl
        simp at reserved
      rcases List.mem_append.mp member with here | later
      · rcases List.mem_cons.mp here with first | inside
        · exact not_ampersand first
        · exact plain other (List.mem_cons_of_mem _ reserved) inside
      · exact escaped.plain other reserved later
    · intro before after split
      cases before with
      | nil =>
          -- The ampersand is the one in front of the entity.
          refine ⟨entity, listed, rest, ?_⟩
          rw [spelled]
          exact split
      | cons first before =>
          have absent : '&' ∉ tail := plain '&' List.mem_cons_self
          obtain ⟨between, _, rest_split⟩ :=
            exists_ampersand_behind absent (List.cons.inj split).2
          exact escaped.ampersand between after rest_split

theorem flatMap_escapeChar (chars : List Char) : IsEscaped (chars.flatMap escapeChar) := by
  induction chars with
  | nil => exact ⟨by simp, by simp⟩
  | cons char chars ih => exact ih.escapeChar_append char

/-- What follows in an escaped text is escaped. -/
theorem of_append {front rest : List Char} (escaped : IsEscaped (front ++ rest)) :
    IsEscaped rest := by
  constructor
  · intro char reserved member
    exact escaped.plain char reserved (List.mem_append_right front member)
  · intro before after split
    apply escaped.ampersand (front ++ before)
    rw [split, List.append_assoc]

/-- An escaped text begins with what some character is escaped to. -/
theorem exists_front {first : Char} {rest : List Char} (escaped : IsEscaped (first :: rest)) :
    ∃ char after, first :: rest = escapeChar char ++ after := by
  by_cases ampersand : first = '&'
  · subst ampersand
    obtain ⟨entity, listed, after, split⟩ := escaped.ampersand [] rest rfl
    obtain ⟨char, spelled⟩ := exists_escapeChar_of_mem_entities listed
    exact ⟨char, after, by rw [spelled, split]⟩
  · have plain := escaped.plain
    have not_reserved : isReserved first = false := by
      rw [isReserved]
      fun_cases entity? first <;> simp_all
    exact ⟨first, rest, by rw [escapeChar_of_not_isReserved not_reserved]; rfl⟩

/-- Every escaped text is what some text is escaped to. -/
theorem exists_source (chars : List Char) (escaped : IsEscaped chars) :
    ∃ source : List Char, source.flatMap escapeChar = chars := by
  -- The part behind the first character or entity is shorter, and it is escaped as well.
  induction size : chars.length using Nat.strong_induction_on generalizing chars with
  | _ length ih =>
      cases chars with
      | nil => exact ⟨[], rfl⟩
      | cons first rest =>
          obtain ⟨char, after, split⟩ := escaped.exists_front
          have spelled_nonempty : (escapeChar char).length ≠ 0 := by
            rcases escapeChar_cases char with ⟨same, _⟩ | ⟨_, _, tail, same, _⟩ <;> simp [same]
          have shorter : after.length < length := by
            rw [← size, split, List.length_append]
            omega
          have after_escaped : IsEscaped after := by
            rw [split] at escaped
            exact escaped.of_append
          obtain ⟨source, spelled⟩ := ih after.length shorter after after_escaped rfl
          exact ⟨char :: source, by rw [List.flatMap_cons, spelled, split]⟩

end IsEscaped

theorem exists_escape_eq_iff (html : String) :
    (∃ text, escape text = html) ↔ IsEscaped html.toList := by
  constructor
  · rintro ⟨text, rfl⟩
    rw [toList_escape]
    exact .flatMap_escapeChar text.toList
  · intro escaped
    obtain ⟨source, spelled⟩ := IsEscaped.exists_source html.toList escaped
    refine ⟨String.ofList source, ?_⟩
    apply String.toList_injective
    rw [toList_escape, String.toList_ofList, spelled]

/-- Texts that are escaped one by one give the escape of their concatenation. -/
theorem join_map_escape (texts : List String) :
    String.join (texts.map escape) = escape (String.join texts) := by
  induction texts with
  | nil => rfl
  | cons text texts ih => rw [List.map_cons, String.join_cons, ih, String.join_cons, escape_append]

/--
Escaping can be undone, and what it gives is known. Although it copies the part before the first
reserved character by its length in bytes, it replaces every character by its entity or by itself.
So it goes through a text piece by piece, whether the pieces are joined before or written to a
buffer one by one; decoding gives back the text, so different texts stay different; and a text is
the escape of another one exactly if it has no brackets and quotes and all its ampersands start
entities.
-/
theorem escape_invertible_with_known_image :
    (∀ text, (escape text).toList = text.toList.flatMap escapeChar ∧
      (reservedOffset? text.toList = none ↔ needsEscape text = false) ∧
      ∀ offset, reservedOffset? text.toList = some offset →
        (⟨offset⟩ : String.Pos.Raw).IsValid text) ∧
    (∀ left right, escape (left ++ right) = escape left ++ escape right) ∧
    (∀ (page : Buffer) pieces, (page.writeAllEscaped (pieces.map .text)).flatten =
      page.flatten ++ escape (String.join pieces)) ∧
    (∀ text, decode (escape text) = text) ∧
    Function.Injective escape ∧
    ∀ html, (∃ text, escape text = html) ↔ IsEscaped html.toList := by
  refine ⟨fun text => ⟨toList_escape text, ?_, fun _ found => isValid_reservedOffset? found⟩,
    escape_append, fun page pieces => ?_, decode_escape, escape_injective, exists_escape_eq_iff⟩
  · rw [reservedOffset?_eq_none_iff, needsEscape]
    simp
  · rw [Buffer.flatten_writeAllEscaped, List.map_map, ← join_map_escape]
    rfl

/-- Entities of a text are escaped like anything else, and decoding stops at the text. -/
example : escape "&amp;lt; 'ä'" = "&amp;amp;lt; &#39;ä&#39;" ∧
    decode "&amp;amp;lt; &#39;ä&#39;" = "&amp;lt; 'ä'" := by
  decide +kernel

end Html

end Stencil
