import Stencil.Proofs.BuiltinOutput
import Stencil.Proofs.Escaping
import Stencil.Proofs.Registration

/-!
# The tags of the builtin templates

Angle brackets and quotes make the tags of a document and delimit the values of attributes. This
file follows them through the output of the builtin templates: `Html.tagChars` picks them out of a
text, in order. Escaping leaves none of them, so whatever is shown of the context contributes
nothing, and what remains is told by the template, by the number of items of a list and by the
number of attributes of a field.
-/

namespace Stencil

namespace Html

/-- Whether a character opens or closes a tag, or delimits the value of an attribute. -/
def isTagChar (char : Char) : Bool :=
  ['<', '>', '\'', '"'].contains char

/-- The characters of a text that make its tags, in order. -/
def tagChars (text : String) : List Char :=
  text.toList.filter isTagChar

@[simp]
theorem tagChars_append (left right : String) :
    tagChars (left ++ right) = tagChars left ++ tagChars right := by
  simp [tagChars]

@[simp]
theorem tagChars_join (texts : List String) :
    tagChars (String.join texts) = texts.flatMap tagChars := by
  induction texts with
  | nil => rfl
  | cons text texts ih => rw [String.join_cons, tagChars_append, ih, List.flatMap_cons]

theorem filter_escapeChar (char : Char) : (escapeChar char).filter isTagChar = [] := by
  rw [escapeChar]
  fun_cases entity? char with
  | case6 => simp_all [isTagChar]
  | _ => decide

/-- An escaped text takes no part in the tags of a document. -/
@[simp]
theorem tagChars_escape (text : String) : tagChars (escape text) = [] := by
  simp [tagChars, List.filter_flatMap, filter_escapeChar]

end Html

open Html

namespace Scope

variable {scope : Scope} {name text : String}

theorem tagChars_shown (shown : scope.shown name = .ok text) : tagChars text = [] := by
  rw [Scope.shown] at shown
  obtain ⟨found, _, rfl⟩ := exists_of_map_eq_ok shown
  exact tagChars_escape _

theorem tagChars_shownOr {fallback : String} (shown : scope.shownOr name fallback = .ok text)
    (plain : tagChars fallback = []) : tagChars text = [] := by
  rw [Scope.shownOr] at shown
  obtain ⟨found, _, rfl⟩ := exists_of_map_eq_ok shown
  cases found with
  | none => exact plain
  | some value => exact tagChars_escape _

/-- A lookup that succeeds gives what the name means, if it means anything. -/
theorem resolve_of_lookup {found : Option Json} (looked : scope.lookup name = .ok found) :
    scope.resolve name = found := by
  unfold lookup at looked
  split at looked
  · next value _ resolved => rw [resolved, Except.ok.inj looked]
  · next resolved _ => rw [resolved, Except.ok.inj looked]
  · cases looked

/-- The number of elements of `items`. -/
def itemCount (scope : Scope) : Nat :=
  match scope.resolve "items" with
  | some (.array items) => items.length
  | _ => 0

/-- Whether a name is rendered as an attribute: it is not missing, not null and not false. -/
def isRendered (scope : Scope) (name : String) : Bool :=
  match scope.resolve name with
  | none | some .null | some (.bool false) => false
  | some _ => true

/-- The number of attributes that a field is rendered with. -/
def attributeCount (scope : Scope) : Nat :=
  Builtin.fieldNames.countP scope.isRendered

/-- An attribute has two quotes, and one that is left out has none. -/
theorem tagChars_attribute (scope : Scope) (plain : tagChars name = []) :
    tagChars ((Value.ofOption (scope.resolve name)).toAttribute.shown name) =
      if scope.isRendered name then ['"', '"'] else [] := by
  have quoted : ∀ value, tagChars value = [] →
      tagChars (" " ++ name ++ "=\"" ++ value ++ "\"") = ['"', '"'] := by
    intro value none
    simp only [tagChars_append, plain, none]
    decide
  rw [isRendered]
  match scope.resolve name with
  | none => rfl
  | some .null => rfl
  | some (.bool false) => rfl
  | some (.bool true) => exact quoted name plain
  | some (.number _) => exact quoted _ (tagChars_escape _)
  | some (.string _) => exact quoted _ (tagChars_escape _)
  | some (.array _) => exact quoted _ (tagChars_escape _)
  | some (.object _) => exact quoted _ (tagChars_escape _)

/-- Attributes have two quotes for each name that is rendered. -/
theorem tagChars_attributes (scope : Scope) {names : List String}
    (plain : ∀ name ∈ names, tagChars name = []) :
    (names.flatMap fun name =>
      tagChars ((Value.ofOption (scope.resolve name)).toAttribute.shown name)) =
      (List.replicate (names.countP scope.isRendered) ['"', '"']).flatten := by
  induction names with
  | nil => rfl
  | cons name names ih =>
      obtain ⟨first, rest⟩ := List.forall_mem_cons.mp plain
      rw [List.flatMap_cons, ih rest, scope.tagChars_attribute first, List.countP_cons]
      cases scope.isRendered name <;> rfl

end Scope

/-- Lookups of several names that all succeed give what the names mean. -/
theorem Scope.eq_map_of_mapM_lookup {β : Type} {scope : Scope} (view : Option Json → β)
    {names : List String} {entries : List (String × β)}
    (looked : (names.mapM fun name => (scope.lookup name).map fun found => (name, view found)) =
      .ok entries) :
    entries = names.map fun name => (name, view (scope.resolve name)) := by
  induction names generalizing entries with
  | nil =>
      cases looked
      rfl
  | cons name names ih =>
      rw [List.mapM_cons] at looked
      obtain ⟨entry, first, continued⟩ := exists_of_bind_eq_ok looked
      obtain ⟨found, resolved, rfl⟩ := exists_of_map_eq_ok first
      obtain ⟨others, rest, last⟩ := exists_of_bind_eq_ok continued
      cases last
      rw [List.map_cons, ih rest, resolve_of_lookup resolved]

namespace Builtin

/-! ## Where the data stands -/

theorem tagChars_greetingText {name : String} (plain : tagChars name = []) :
    tagChars (greetingText name) = tagChars (greetingText "") := by
  simp only [greetingText, tagChars_join, List.flatMap_cons, plain]
  rfl

theorem tagChars_documentText {title content other : String} (plain : tagChars title = [])
    (same : tagChars content = tagChars other) :
    tagChars (documentText title content) = tagChars (documentText "" other) := by
  simp only [documentText, tagChars_join, List.flatMap_cons, plain, same]
  rfl

theorem tagChars_articleText {headline author body : String}
    (plain_headline : tagChars headline = []) (plain_author : tagChars author = [])
    (plain_body : tagChars body = []) :
    tagChars (articleText headline author body) = tagChars (articleText "" "" "") := by
  simp only [articleText, tagChars_join, List.flatMap_cons, plain_headline,
    tagChars_greetingText plain_author, plain_body]
  rfl

theorem tagChars_itemText (item : Json) (position : Nat) :
    tagChars (itemText item position) = tagChars (itemText .null position) := by
  simp only [itemText, tagChars_join, List.flatMap_cons, tagChars_escape]

/-- The tags of an item depend on its position, so those of a list depend on its length. -/
theorem tagChars_listText (items : List Json) :
    tagChars (listText items) =
      tagChars "<ul>" ++ (List.range items.length).flatMap
        (fun position => tagChars (itemText .null position)) ++ tagChars "</ul>" := by
  -- The items take part by their positions only.
  have positions : items.zipIdx.map Prod.snd = List.range items.length := by
    rw [List.zipIdx_map_snd, List.range_eq_range']
  simp only [listText, tagChars_join, List.flatMap_cons, List.flatMap_nil, List.append_nil,
    List.flatMap_map, tagChars_itemText, ← positions, List.append_assoc]

/-- The tags of a field are the quotes of the attributes it has, between those it always has. -/
theorem tagChars_fieldText (scope : Scope) {type : String} (plain : tagChars type = []) :
    tagChars (fieldText type (fieldNames.map fun name =>
      (name, (Value.ofOption (scope.resolve name)).toAttribute))) =
      tagChars "<input type=\"" ++ tagChars "\"" ++
        (List.replicate scope.attributeCount ['"', '"']).flatten ++ tagChars ">" := by
  have letters : ∀ name ∈ fieldNames, tagChars name = [] := by decide
  simp only [fieldText, tagChars_join, List.flatMap_cons, List.flatMap_nil, List.flatMap_map,
    List.append_nil, plain, List.nil_append, scope.tagChars_attributes letters,
    Scope.attributeCount, List.append_assoc]

/-! ## What the tags of a render depend on -/

/-- The registry of the builtin templates has those of the catalogue. -/
theorem get?_of_registered {id : String} {template : Template}
    (registered : (do (← registry).load id) = .ok template) :
    catalogue.get? id = some template := by
  rw [registry_eq] at registered
  exact Registry.load_eq_ok_iff.mp registered

variable {scope : Scope} {html : String}

/-- The outcome of a render that ends is the one that the template gives at some depth. -/
theorem Gives.eq_of_ends {template : Template} {depth : Nat}
    {outcome other : Except RenderError String} (gives : Gives template scope depth outcome)
    (ends : (template.bind scope).EndsWith other) : outcome = other :=
  Bound.EndsWith.unique ⟨depth, gives.endsWithin⟩ ends

theorem tagChars_greeting (fresh : scope.defs = ∅)
    (ends : (greeting.bind scope).EndsWith (.ok html)) :
    tagChars html = tagChars (greetingText "") := by
  obtain ⟨name, shown, rfl⟩ := exists_of_map_eq_ok ((greeting_gives fresh 0).eq_of_ends ends)
  exact tagChars_greetingText (Scope.tagChars_shown shown)

theorem tagChars_page (fresh : scope.defs = ∅) (ends : (page.bind scope).EndsWith (.ok html)) :
    tagChars html = tagChars (documentText "" "") := by
  obtain ⟨title, shown, rfl⟩ := exists_of_map_eq_ok ((page_gives fresh 0).eq_of_ends ends)
  exact tagChars_documentText (Scope.tagChars_shownOr shown (by decide)) rfl

theorem tagChars_article (fresh : scope.defs = ∅)
    (ends : ((article page greeting).bind scope).EndsWith (.ok html)) :
    tagChars html = tagChars (documentText "" (articleText "" "" "")) := by
  have outcome := (article_gives fresh 0).eq_of_ends ends
  obtain ⟨headline, shown, outcome⟩ := exists_of_bind_eq_ok outcome
  obtain ⟨author, shown_author, outcome⟩ := exists_of_bind_eq_ok outcome
  obtain ⟨body, shown_body, outcome⟩ := exists_of_bind_eq_ok outcome
  cases outcome
  exact tagChars_documentText (Scope.tagChars_shown shown)
    (tagChars_articleText (Scope.tagChars_shown shown) (Scope.tagChars_shown shown_author)
      (Scope.tagChars_shown shown_body))

theorem tagChars_list (fresh : scope.defs = ∅) (ends : (list.bind scope).EndsWith (.ok html)) :
    tagChars html =
      tagChars "<ul>" ++ (List.range scope.itemCount).flatMap
        (fun position => tagChars (itemText .null position)) ++ tagChars "</ul>" := by
  have outcome := (list_gives fresh 0).eq_of_ends ends
  obtain ⟨found, looked, outcome⟩ := exists_of_bind_eq_ok outcome
  rw [Scope.itemCount, Scope.resolve_of_lookup looked]
  match found with
  | some (.array items) =>
      cases outcome
      exact tagChars_listText items
  | none => cases outcome
  | some .null => cases outcome
  | some (.bool _) => cases outcome
  | some (.number _) => cases outcome
  | some (.string _) => cases outcome
  | some (.object _) => cases outcome

theorem tagChars_field (fresh : scope.defs = ∅) (ends : (field.bind scope).EndsWith (.ok html)) :
    tagChars html =
      tagChars "<input type=\"" ++ tagChars "\"" ++
        (List.replicate scope.attributeCount ['"', '"']).flatten ++ tagChars ">" := by
  have outcome := (field_gives fresh 0).eq_of_ends ends
  obtain ⟨type, shown, outcome⟩ := exists_of_bind_eq_ok outcome
  obtain ⟨attributes, looked, outcome⟩ := exists_of_bind_eq_ok outcome
  cases outcome
  rw [Scope.eq_map_of_mapM_lookup (fun found => (Value.ofOption found).toAttribute) looked]
  exact tagChars_fieldText scope (Scope.tagChars_shownOr shown (by decide))

/--
The data of a context cannot change the tags of a builtin template. Two renders that end well, each
in a scope without defs of its own, have the same tags, whatever their contexts, globals and
policies are; for a list as long as there are as many items, and for a field as long as there are
as many attributes.
-/
theorem tag_structure_independent_of_data {id : String} {template : Template}
    (registered : (do (← registry).load id) = .ok template) {scope other : Scope}
    (fresh : scope.defs = ∅) (other_fresh : other.defs = ∅) {html html' : String}
    (ends : (template.bind scope).EndsWith (.ok html))
    (other_ends : (template.bind other).EndsWith (.ok html')) :
    id ∈ ["article", "field", "greeting", "list", "page"] ∧
      (id ∈ ["greeting", "page", "article"] → tagChars html = tagChars html') ∧
      (id = "list" → scope.itemCount = other.itemCount → tagChars html = tagChars html') ∧
      (id = "field" → scope.attributeCount = other.attributeCount →
        tagChars html = tagChars html') := by
  rcases eq_of_get?_catalogue (get?_of_registered registered) with
    ⟨rfl, rfl⟩ | ⟨rfl, rfl⟩ | ⟨rfl, rfl⟩ | ⟨rfl, rfl⟩ | ⟨rfl, rfl⟩
  · have same := (tagChars_article fresh ends).trans (tagChars_article other_fresh other_ends).symm
    exact ⟨by decide, fun _ => same, fun _ _ => same, fun _ _ => same⟩
  · refine ⟨by decide, fun listed => absurd listed (by decide),
      fun named => absurd named (by decide), fun _ counts => ?_⟩
    rw [tagChars_field fresh ends, tagChars_field other_fresh other_ends, counts]
  · have same :=
      (tagChars_greeting fresh ends).trans (tagChars_greeting other_fresh other_ends).symm
    exact ⟨by decide, fun _ => same, fun _ _ => same, fun _ _ => same⟩
  · refine ⟨by decide, fun listed => absurd listed (by decide), fun _ counts => ?_,
      fun named => absurd named (by decide)⟩
    rw [tagChars_list fresh ends, tagChars_list other_fresh other_ends, counts]
  · have same := (tagChars_page fresh ends).trans (tagChars_page other_fresh other_ends).symm
    exact ⟨by decide, fun _ => same, fun _ _ => same, fun _ _ => same⟩

/-- A field that is sent back with what was typed into it. -/
def typedField : Scope :=
  { vars := .ofList [("checked", .bool true), ("name", .string "\"><script>"), ("value", .null)] }

/-- A field with the same number of attributes, under a strict policy. -/
def plainField : Scope :=
  { vars := .ofList [("checked", .bool false), ("disabled", .array []), ("name", .string "age")]
    globals := .ofList [("type", .string "number"), ("value", .null)]
    policy := .strict }

/-- Two fields with two attributes each have the same tags, although one holds tags as data. -/
theorem typedField_tags_as_plainField :
    ∃ html html', (field.bind typedField).EndsWith (.ok html) ∧
      (field.bind plainField).EndsWith (.ok html') ∧ html ≠ html' ∧
      tagChars html = tagChars html' := by
  have registered : (do (← registry).load "field") = .ok field := rfl
  have fresh : typedField.defs = ∅ := rfl
  have other_fresh : plainField.defs = ∅ := rfl
  have ends := (field_gives fresh 0).endsWithin
  have other_ends := (field_gives other_fresh 0).endsWithin
  refine ⟨_, _, ⟨1, ends⟩, ⟨1, other_ends⟩, by decide +kernel, ?_⟩
  obtain ⟨_, _, _, counted⟩ := tag_structure_independent_of_data registered fresh other_fresh
    ⟨1, ends⟩ ⟨1, other_ends⟩
  exact counted rfl (by decide +kernel)

end Builtin

end Stencil
