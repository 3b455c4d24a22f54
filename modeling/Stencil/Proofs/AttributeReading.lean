import Stencil.Proofs.Scanning
import Stencil.Table

/-!
# Attributes that are read back

Attributes are written one behind the other, each as a blank, a name and a value in quotes. A reader
that follows this form finds every attribute that was written, and nothing else, although the values
are arbitrary: a value cannot end before its closing quote, because an escaped text has no quotes.
Attributes that are left out leave no trace.
-/

namespace Stencil

namespace Html

/-- Takes an attribute: a blank, a name up to `=`, and a value in quotes, which is decoded. -/
def scanAttribute : Scan (String × String) := do
  Scan.expect " "
  let name ← Scan.through "="
  Scan.expect "\""
  let value ← Scan.through "\""
  return (name, decode value)

/-- The attributes of a text that consists of nothing else. -/
def readAttributes (html : String) : Option (List (String × String)) :=
  scanAttribute.toEnd html.toList

/-- A name that can be written as it is; blanks and brackets would do no harm to its reading. -/
def isAttributeName (name : String) : Bool :=
  name.toList.all fun char => char ∉ ['=', '&', '"']

theorem not_mem_of_isAttributeName {name : String} (valid : isAttributeName name = true)
    {char : Char} (forbidden : char ∈ ['=', '&', '"']) : char ∉ name.toList := by
  intro member
  have allowed := List.all_eq_true.mp valid char member
  simp [forbidden] at allowed

/-- Without ampersands there is nothing to decode. -/
theorem decodeChars_of_no_ampersand {chars : List Char} (absent : '&' ∉ chars) :
    decodeChars chars = chars := by
  induction chars with
  | nil => rfl
  | cons char chars ih =>
      have plain : char ≠ '&' := fun same => absent (same ▸ List.mem_cons_self)
      rw [decodeChars_cons plain, ih fun member => absent (List.mem_cons_of_mem _ member)]

/-- An attribute is taken whole if neither its name nor its value ends too early. -/
theorem scanAttribute_takes {name value : String} (valid : isAttributeName name = true)
    (quoted : '"' ∉ value.toList) :
    scanAttribute.Takes (" " ++ name ++ "=\"" ++ value ++ "\"") (name, decode value) := by
  have unassigned : '=' ∉ name.toList := not_mem_of_isAttributeName valid (by decide)
  have takes : scanAttribute.Takes
      (" " ++ ((name ++ "=") ++ ("\"" ++ ((value ++ "\"") ++ "")))) (name, decode value) :=
    .bind (.expect " ") (.bind (.through rfl unassigned) (.bind (.expect "\"")
      (.bind (.through rfl quoted) (.pure _))))
  refine takes.congr ?_
  have sign : "=\"" = "=" ++ "\"" := by decide
  simp only [sign, String.append_assoc, String.append_empty]

end Html

open Html

namespace AttributeValue

/-- Whether a value is a flag, a text, or absent. Safe content may have quotes of its own. -/
def isPlain : AttributeValue → Bool
  | .flag _ | .absent => true
  | .value content => !content.isSafe

/-- The text that a plain value gives an attribute, unless the attribute is left out. -/
def told (name : String) : AttributeValue → Option String
  | .flag true => some name
  | .value (.text plain) => some plain
  | _ => none

/-- Reading goes on behind an attribute with what it says, or as if it were not there. -/
theorem readAttributes_shown {name : String} {value : AttributeValue}
    (valid : isAttributeName name = true) (plain : value.isPlain = true) (rest : String) :
    readAttributes (value.shown name ++ rest) =
      (readAttributes rest).map (((value.told name).map (name, ·)).toList ++ ·) := by
  have written : ∀ {shown text : String}, '"' ∉ shown.toList → decode shown = text →
      readAttributes (" " ++ name ++ "=\"" ++ shown ++ "\"" ++ rest) =
        (readAttributes rest).map ((name, text) :: ·) := by
    rintro shown _ quoted rfl
    refine (scanAttribute_takes valid quoted).toEnd_append (fun empty => ?_) rest
    simpa using congrArg String.toList empty
  match value with
  | .flag true =>
      have decoded : decode name = name := by
        rw [decode, decodeChars_of_no_ampersand (not_mem_of_isAttributeName valid (by decide)),
          String.ofList_toList]
      exact written (not_mem_of_isAttributeName valid (by decide)) decoded
  | .flag false => simp [shown, told]
  | .absent => simp [shown, told]
  | .value (.text plain) => exact written (not_mem_escape (by decide) plain) (decode_escape plain)

end AttributeValue

/-- Plain attributes are read back in order, those that are left out apart. -/
theorem Buffer.readAttributes_ofAttributes {attributes : List (String × AttributeValue)}
    (plain : ∀ pair ∈ attributes, isAttributeName pair.1 = true ∧ pair.2.isPlain = true) :
    readAttributes (ofAttributes attributes).flatten =
      some (attributes.filterMap fun pair => (pair.2.told pair.1).map (pair.1, ·)) := by
  rw [flatten_ofAttributes]
  induction attributes with
  | nil => exact Scan.toEnd_nil _
  | cons pair attributes ih =>
      obtain ⟨⟨valid, first⟩, others⟩ := List.forall_mem_cons.mp plain
      rw [List.map_cons, String.join_cons, AttributeValue.readAttributes_shown valid first,
        ih others, Option.map_some, List.filterMap_cons]
      cases pair.2.told pair.1 <;> rfl

namespace Json

/-- The text that a JSON value gives an attribute, unless the attribute is left out. -/
def told (name : String) : Json → Option String
  | .null | .bool false => none
  | .bool true => some name
  | data => some data.text

theorem isPlain_toAttribute (data : Json) : data.toAttribute.isPlain = true := by
  cases data <;> rfl

theorem told_toAttribute (name : String) (data : Json) :
    data.toAttribute.told name = data.told name := by
  match data with
  | .null | .bool false | .bool true => rfl
  | .number _ | .string _ | .array _ | .object _ => rfl

end Json

/-- Entries that are kept or left out one by one stay in the order of their names. -/
theorem Entries.Ascending.filterMap {α β : Type} {entries : Entries α}
    (ascending : entries.Ascending) (keep : String × α → Option β) :
    Entries.Ascending (entries.filterMap fun entry => (keep entry).map (entry.1, ·)) := by
  rw [Ascending, names, List.pairwise_map] at ascending ⊢
  rw [List.pairwise_filterMap]
  refine ascending.imp fun before first kept second also_kept => ?_
  obtain ⟨_, _, rfl⟩ := Option.map_eq_some_iff.mp kept
  obtain ⟨_, _, rfl⟩ := Option.map_eq_some_iff.mp also_kept
  exact before

/--
A list of attributes is read back as what was written: in order, a flag that is set as its own name,
a text as itself, the empty one as well, and nothing for flags that are not set and for absent
values. Every JSON value is a flag, a text or absent as an attribute; so an object is read back in
the order of its names, without null and false, with true as the name and everything else as its
text.
-/
theorem Buffer.attributes_read_back :
    (∀ attributes : List (String × AttributeValue),
      (∀ pair ∈ attributes, isAttributeName pair.1 = true ∧ pair.2.isPlain = true) →
      readAttributes (ofAttributes attributes).flatten =
        some (attributes.filterMap fun pair => (pair.2.told pair.1).map (pair.1, ·))) ∧
    (∀ data : Json, data.toAttribute.isPlain = true) ∧
    ∀ fields : Entries Json, (∀ name ∈ fields.names, isAttributeName name = true) →
      ∃ read : Entries String,
        readAttributes (ofAttributes (fields.map fun field =>
          (field.1, field.2.toAttribute))).flatten = some read ∧
        read = fields.filterMap (fun field => (field.2.told field.1).map (field.1, ·)) ∧
        (fields.Ascending → read.Ascending) := by
  refine ⟨fun attributes => readAttributes_ofAttributes, Json.isPlain_toAttribute,
    fun fields valid => ⟨_, ?_, rfl, fun ascending => ascending.filterMap _⟩⟩
  rw [readAttributes_ofAttributes, List.filterMap_map]
  · congr 2
    funext field
    exact congrArg (Option.map (field.1, ·)) (Json.told_toAttribute field.1 field.2)
  · intro pair member
    obtain ⟨field, listed, rfl⟩ := List.mem_map.mp member
    exact ⟨valid field.1 (List.mem_map.mpr ⟨field, listed, rfl⟩), Json.isPlain_toAttribute field.2⟩

/-- An input element as somebody filled it in who knows how attributes are written. -/
def Json.filledIn : Entries Json := [
  ("alt", .string ""),
  ("checked", .bool true),
  ("disabled", .bool false),
  ("size", .array [.number (.int 3), .null]),
  ("title", .null),
  ("value", .string "\" checked=\"&#34;' <b>")]

/-- What was filled in is read back, with quotes and entities, and so is a list of other values. -/
theorem Json.filledIn_read_back :
    readAttributes (Buffer.ofAttributes (Json.filledIn.map fun field =>
        (field.1, field.2.toAttribute))).flatten =
      some [("alt", ""), ("checked", "checked"), ("size", "3,null"),
        ("value", "\" checked=\"&#34;' <b>")] ∧
    readAttributes (Buffer.ofAttributes [("id", .value (.text "a=\"b\" ")), ("id", .flag false),
        ("id", .flag true), ("", .absent)]).flatten =
      some [("id", "a=\"b\" "), ("id", "id")] := by
  obtain ⟨lists, _, objects⟩ := Buffer.attributes_read_back
  constructor
  · obtain ⟨read, ended, same, _⟩ := objects Json.filledIn (by decide +kernel)
    rw [ended, same]
    exact congrArg some (by decide +kernel)
  · rw [lists _ (by decide +kernel)]
    rfl

end Stencil
