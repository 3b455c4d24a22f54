import Stencil.Proofs.BuiltinOutput
import Stencil.Proofs.Scanning

/-!
# Lists that are read back

A list is cut at its tags, and the text of every item is decoded. This gives the texts of the items
back, one for one and in order, even if they spell the tags of a list themselves: between its own
tags an item is escaped, so the first `<` behind its opening tag belongs to its closing tag. Hence
lists of different texts are never rendered alike.
-/

namespace Stencil

namespace Html

/-- Takes an item of a list, marked or not, and decodes its text. -/
def scanItem : Scan String := do
  Scan.expect "<li>" <|> Scan.expect "<li class=\"odd\">"
  let text ← Scan.through "</li>"
  return decode text

/-- The texts of the items of a list. -/
def readList (html : String) : Option (List String) := do
  let inside ← html.toList.dropPrefix? "<ul>".toList
  let items ← inside.dropSuffix? "</ul>".toList
  scanItem.toEnd items

/-- The tag that opens an item; every second item is marked. -/
def itemTag (position : Nat) : String :=
  if position % 2 = 1 then "<li class=\"odd\">" else "<li>"

/-- Items that have these texts, one behind the other, from a position on. -/
def itemsText (texts : List String) (position : Nat) : String :=
  String.join ((texts.zipIdx position).map fun entry =>
    itemTag entry.2 ++ escape entry.1 ++ "</li>")

theorem scan_itemTag_takes (position : Nat) :
    Scan.Takes (Scan.expect "<li>" <|> Scan.expect "<li class=\"odd\">") (itemTag position) () := by
  rw [itemTag]
  split
  · -- A marked item does not go on with `>` behind `<li`.
    exact .orElse_of_none (fun _ => rfl) (.expect _)
  · exact .orElse (.expect _)

theorem scanItem_takes (text : String) (position : Nat) :
    scanItem.Takes (itemTag position ++ escape text ++ "</li>") text := by
  have takes : scanItem.Takes (itemTag position ++ ((escape text ++ "</li>") ++ ""))
      (decode (escape text)) :=
    .bind (scan_itemTag_takes position)
      (.bind (.through rfl (not_mem_escape (by decide) text)) (.pure _))
  rw [decode_escape] at takes
  refine takes.congr ?_
  rw [String.append_empty, String.append_assoc]

theorem toEnd_itemsText (texts : List String) (position : Nat) :
    scanItem.toEnd (itemsText texts position).toList = some texts := by
  -- The position only decides how an item is marked, so it may be any in the induction.
  induction texts generalizing position with
  | nil => exact Scan.toEnd_nil _
  | cons text texts ih =>
      have nonempty : itemTag position ++ escape text ++ "</li>" ≠ "" := fun empty => by
        simpa using congrArg String.toList empty
      rw [itemsText, List.zipIdx_cons, List.map_cons, String.join_cons,
        (scanItem_takes text position).toEnd_append nonempty, ← itemsText, ih, Option.map_some]

theorem readList_itemsText (texts : List String) (position : Nat) :
    readList ("<ul>" ++ itemsText texts position ++ "</ul>") = some texts := by
  have items : ((itemsText texts position).toList ++ "</ul>".toList).dropSuffix? "</ul>".toList =
      some (itemsText texts position).toList :=
    List.dropSuffix?_eq_some_iff.mpr ⟨_, rfl, BEq.rfl⟩
  rw [readList, String.toList_append, String.toList_append, List.append_assoc,
    List.dropPrefix?_append_of_beq _ BEq.rfl]
  change ((_ : Option (List Char)).bind _) = _
  rw [Option.bind_some, items]
  exact toEnd_itemsText texts position

end Html

open Html

namespace Builtin

theorem itemText_eq (item : Json) (position : Nat) :
    itemText item position = itemTag position ++ escape item.text ++ "</li>" := by
  have marked : "<li class=\"odd\">" = "<li" ++ (" class=\"odd\"" ++ ">") := by decide
  have unmarked : "<li>" = "<li" ++ ("" ++ ">") := by decide
  rw [itemText, itemTag]
  split <;> simp only [marked, unmarked, String.join_cons, String.join_nil, String.append_assoc,
    String.append_empty]

/-- A list is made of the texts of its items. -/
theorem listText_eq (items : List Json) :
    listText items = "<ul>" ++ itemsText (items.map Json.text) 0 ++ "</ul>" := by
  have same : String.join (items.zipIdx.map fun entry => itemText entry.1 entry.2) =
      itemsText (items.map Json.text) 0 := by
    rw [itemsText, List.zipIdx_map, List.map_map]
    exact congrArg String.join (List.map_congr_left fun entry _ => itemText_eq entry.1 entry.2)
  simp only [listText, same, String.join_cons, String.join_nil, String.append_assoc,
    String.append_empty]

/-- Lists are told apart by the texts of their items, and by nothing else. -/
theorem listText_eq_iff {items others : List Json} :
    listText items = listText others ↔ items.map Json.text = others.map Json.text := by
  rw [listText_eq, listText_eq]
  constructor
  · intro same
    -- Reading is a left inverse, so nothing that was written can be lost.
    have read := congrArg readList same
    rw [readList_itemsText, readList_itemsText] at read
    exact Option.some.inj read
  · intro same
    rw [same]

variable {scope : Scope}

theorem list_of_items (fresh : scope.defs = ∅) {items : List Json}
    (found : scope.resolve "items" = some (.array items)) :
    (list.bind scope).EndsWithin depth (.ok (listText items)) := by
  refine (list_gives fresh 7).endsWithin_of_eq ?_
  rw [Scope.lookup_of_resolve found]
  rfl

theorem list_of_other_data (fresh : scope.defs = ∅) {data : Json}
    (found : scope.resolve "items" = some data) (refused : ∀ items, data ≠ .array items) :
    (list.bind scope).EndsWithin depth (.error (.notAnArray itemsComplaint data)) := by
  refine (list_gives fresh 7).endsWithin_of_eq ?_
  rw [Scope.lookup_of_resolve found]
  cases data with
  | array items => exact absurd rfl (refused items)
  | _ => rfl

theorem list_of_nothing (fresh : scope.defs = ∅) (missing : scope.resolve "items" = none) :
    (list.bind scope).EndsWithin depth (.error (match scope.policy with
      | .lenient => .notAnArray itemsComplaint .null
      | .strict => .nameNotFound "items")) := by
  refine (list_gives fresh 7).endsWithin_of_eq ?_
  rw [Scope.lookup, missing]
  cases scope.policy <;> rfl

/-- Lists end alike if and only if their items have the same texts. -/
theorem list_ends_alike_iff {other : Scope} (fresh : other.defs = ∅) {items others : List Json}
    (found : other.resolve "items" = some (.array others)) :
    (list.bind other).EndsWithin depth (.ok (listText items)) ↔
      items.map Json.text = others.map Json.text := by
  have ended := list_of_items fresh found
  rw [← listText_eq_iff]
  constructor
  · intro alike
    exact Except.ok.inj (Bound.EndsWith.unique ⟨depth, alike⟩ ⟨depth, ended⟩)
  · intro same
    rwa [same]

/--
A list loses, merges and reorders nothing. If `items` is an array, the list is rendered as its items
in order, and is read back as their texts; another list is rendered alike if and only if it has the
same texts. If `items` is anything else, or nothing under a lenient policy, the render fails with a
complaint; under a strict policy, `items` is missed if it is nothing.
-/
theorem list_read_back (fresh : scope.defs = ∅) :
    ∃ template, (do (← registry).load "list") = .ok template ∧
      (∀ items, scope.resolve "items" = some (.array items) →
        ∃ html, (template.bind scope).EndsWithin depth (.ok html) ∧
          html = "<ul>" ++ String.join ((items.map Json.text).zipIdx.map fun entry =>
            (if entry.2 % 2 = 1 then "<li class=\"odd\">" else "<li>") ++
              escape entry.1 ++ "</li>") ++ "</ul>" ∧
          readList html = some (items.map Json.text) ∧
          ∀ other : Scope, other.defs = ∅ →
            ∀ others, other.resolve "items" = some (.array others) →
              ((template.bind other).EndsWithin depth (.ok html) ↔
                items.map Json.text = others.map Json.text)) ∧
      (∀ data, scope.resolve "items" = some data → (∀ items, data ≠ .array items) →
        (template.bind scope).EndsWithin depth (.error (.notAnArray itemsComplaint data))) ∧
      (scope.resolve "items" = none →
        (template.bind scope).EndsWithin depth (.error (match scope.policy with
          | .lenient => .notAnArray itemsComplaint .null
          | .strict => .nameNotFound "items"))) := by
  refine ⟨list, rfl, fun items found => ?_, fun data found refused =>
    list_of_other_data fresh found refused, list_of_nothing fresh⟩
  refine ⟨listText items, list_of_items fresh found, listText_eq items, ?_,
    fun other other_fresh others other_found => list_ends_alike_iff other_fresh other_found⟩
  rw [listText_eq, readList_itemsText]

/-- A list with the tags of a list as data, which is found in the globals. -/
def taggedList : Scope :=
  { vars := .ofList [("item", .null)]
    globals := .ofList [
      ("items", .array [.string "</li><li>", .array [.string "&lt;", .bool true], .null])]
    policy := .strict }

/-- A list of strings that has the same texts. -/
def stringList : Scope :=
  { vars := .ofList [("items", .array [.string "</li><li>", .string "&lt;,true", .string "null"])] }

/-- A list whose items are written down as a text. -/
def quotedList : Scope :=
  { vars := .ofList [("items", .string "[]")] }

/-- A list without items. -/
def absentList : Scope :=
  { taggedList with globals := ∅ }

/-- Tags are read back as data, from a list of strings too; without an array there is no list. -/
theorem taggedList_read_back :
    (∃ html, html = "<ul><li>&lt;/li&gt;&lt;li&gt;</li>" ++
        "<li class=\"odd\">&amp;lt;,true</li><li>null</li></ul>" ∧
      (list.bind taggedList).EndsWithin depth (.ok html) ∧
      (list.bind stringList).EndsWithin depth (.ok html) ∧
      readList html = some ["</li><li>", "&lt;,true", "null"]) ∧
    (list.bind quotedList).EndsWithin depth
      (.error (.notAnArray itemsComplaint (.string "[]"))) ∧
    (list.bind absentList).EndsWithin depth (.error (.nameNotFound "items")) := by
  have fresh : taggedList.defs = ∅ := rfl
  have other_fresh : stringList.defs = ∅ := rfl
  have quoted_fresh : quotedList.defs = ∅ := rfl
  have absent_fresh : absentList.defs = ∅ := rfl
  obtain ⟨_, loaded, read, _⟩ := list_read_back fresh
  obtain ⟨_, loaded_quoted, _, refused, _⟩ := list_read_back quoted_fresh
  obtain ⟨_, loaded_absent, _, _, missed⟩ := list_read_back absent_fresh
  cases loaded
  cases loaded_quoted
  cases loaded_absent
  obtain ⟨html, ended, rendered, back, alike⟩ := read _ rfl
  refine ⟨⟨html, rendered.trans (by decide +kernel), ended,
    (alike _ other_fresh _ rfl).mpr (by decide +kernel), back.trans (by decide +kernel)⟩,
    refused _ rfl fun _ same => ?_, missed rfl⟩
  cases same

end Builtin

end Stencil
