import Stencil.Builtin
import Stencil.Proofs.Writing

/-!
# What the builtin templates write

For a scope without defs of its own, the outcome of each builtin template is given as a function of
the scope: which names it looks up, in which order, and the document around their texts. All five
end, whatever the context is, within the depth that is granted to builtin templates.
-/

namespace Stencil

open Rendering

namespace Scope

/-- A name as it is shown in a document; without a value it is shown as null. -/
def shown (scope : Scope) (name : String) : Except RenderError String :=
  (scope.lookup name).map fun found => Html.escape (found.getD .null).text

/-- A name as it is shown in a document; without a value something else stands in its place. -/
def shownOr (scope : Scope) (name fallback : String) : Except RenderError String :=
  (scope.lookup name).map fun found => found.elim fallback fun data => Html.escape data.text

@[simp]
theorem shown_bindInto (scope : Scope) (template : Template) (name : String) :
    (template.bindInto scope).shown name = scope.shown name := by
  rw [shown, template.lookup_bindInto, shown]

@[simp]
theorem shownOr_bindInto (scope : Scope) (template : Template) (name fallback : String) :
    (template.bindInto scope).shownOr name fallback = scope.shownOr name fallback := by
  rw [shownOr, template.lookup_bindInto, shownOr]

/-- The def that a scope without defs has under a name once a template is bound into it. -/
theorem def?_bindInto_of_fresh {scope : Scope} (fresh : scope.defs = ∅) (template : Template)
    (name : String) :
    (template.bindInto scope).def? name = Entries.get? name template.offers := by
  rw [template.bindInto_eq_addDefs, def?_addDefs, def?, fresh]
  rfl

end Scope

namespace Rendering.Writes

variable {scope : Scope} {invoke : Invocation} {frame : Frame}

theorem shown (name : String) :
    Writes scope ((Stmt.writeEscaped [.lookupOrNull name]).run invoke frame) (scope.shown name) :=
  .writeEscaped (Expr.eval_lookupOrNull_gives name _)

theorem shownOr (name : String) (fallback : Value) (text : String)
    (same : fallback.toContent.escape.text = text) :
    Writes scope ((Stmt.writeEscaped [.orElse (.lookup name) (.literal fallback)]).run invoke frame)
      (scope.shownOr name text) := by
  refine .writeEscaped ((Expr.eval_lookupOr_gives name fallback _).congr ?_)
  rw [Scope.shownOr, ← same]
  match scope.lookup name with
  | .error _ => rfl
  | .ok none => rfl
  | .ok (some _) => rfl

/-- A def that is called without arguments. -/
theorem call {name : String} {definition : Def} {outcome : Except RenderError String}
    (found : scope.def? name = some definition)
    (gives : Gives scope (invoke definition []) Buffer.flatten outcome) :
    Writes scope ((Stmt.write [.call name []]).run invoke frame) outcome := by
  refine .write ?_
  rw [Expr.eval, Expr.evalAll]
  exact .map Value.buffer (callDef_gives found gives)

end Rendering.Writes

namespace Builtin

/-- The builtin templates by identifier. -/
def catalogue : Table Template where
  entries := [
    ("article", article page greeting),
    ("field", field),
    ("greeting", greeting),
    ("list", list),
    ("page", page)]
  ascending := by decide

theorem registry_eq : registry = .ok { templates := catalogue } := rfl

/-- The outcome of a template in a scope without defs of its own, within a depth. -/
def Gives (template : Template) (scope : Scope) (depth : Nat)
    (outcome : Except RenderError String) : Prop :=
  Rendering.Gives (template.bindInto scope) (runMain (Def.invoke depth) template.id)
    Buffer.flatten outcome

/-! ## The greeting -/

/-- A greeting of a name. -/
def greetingText (name : String) : String :=
  String.join ["<p class=\"greeting\">Hello, ", name, "!</p>"]

theorem greeting_gives {scope : Scope} (fresh : scope.defs = ∅) (depth : Nat) :
    Gives greeting scope (depth + 1) ((scope.shown "name").map greetingText) := by
  have found : (greeting.bindInto scope).def? Template.mainName = some greeting.entryPoint :=
    Scope.def?_bindInto_of_fresh fresh _ _
  have writes : Writes (greeting.bindInto scope)
      (Stmt.runAll (Def.invoke depth) {} greeting.entryPoint.body) (inOrder _) :=
    .body (.cons (.text _) (.cons (.shown _) (.cons (.text _) .nil)))
  refine runMain_gives found (Def.invoke_gives (writes.congr ?_)) _
  rw [Scope.shown_bindInto]
  cases scope.shown "name" <;> rfl

/-! ## The page and the article -/

/-- The document around a title and a content. -/
def documentText (title content : String) : String :=
  String.join ["<!DOCTYPE html>\n<html><head><title>", title, "</title></head><body>", content,
    "</body></html>"]

/-- A page is rendered through the defs of its title and its content, whichever are bound. -/
theorem page_main_writes {scope : Scope} {title content : Def} {depth : Nat}
    {left right : Except RenderError String}
    (title_bound : scope.def? "title" = some title)
    (content_bound : scope.def? "content" = some content)
    (title_gives : Rendering.Gives scope (Def.invoke depth title []) Buffer.flatten left)
    (content_gives : Rendering.Gives scope (Def.invoke depth content []) Buffer.flatten right) :
    Writes scope (Stmt.runAll (Def.invoke depth) {} page.entryPoint.body)
      (do return documentText (← left) (← right)) := by
  have writes : Writes scope (Stmt.runAll (Def.invoke depth) {} page.entryPoint.body) (inOrder _) :=
    .body (.cons (.text _) (.cons (.call title_bound title_gives) (.cons (.text _)
      (.cons (.call content_bound content_gives) (.cons (.text _) .nil)))))
  refine writes.congr ?_
  cases left <;> cases right <;> rfl

theorem page_gives {scope : Scope} (fresh : scope.defs = ∅) (depth : Nat) :
    Gives page scope (depth + 2)
      ((scope.shownOr "title" "Untitled").map fun title => documentText title "") := by
  have found := Scope.def?_bindInto_of_fresh fresh page
  have main : Writes (page.bindInto scope)
      (Stmt.runAll (Def.invoke (depth + 1)) {} page.entryPoint.body)
      (do return documentText (← inOrder _) (← inOrder [])) :=
    page_main_writes (found "title") (found "content")
      (Def.invoke_gives (.body
        (.cons (.shownOr "title" (.markup ⟨"Untitled"⟩) "Untitled" rfl) .nil)))
      (Def.invoke_gives (.body .nil))
  refine runMain_gives (found Template.mainName) (Def.invoke_gives (main.congr ?_)) _
  rw [inOrder_singleton, Scope.shownOr_bindInto]
  cases scope.shownOr "title" "Untitled" <;> rfl

/-- The content of an article. -/
def articleText (headline author body : String) : String :=
  String.join ["<article><h1>", headline, "</h1>", greetingText author, "<div class=\"body\">",
    body, "</div></article>"]

/-- A greeting that is included is of the name it is given, whatever the context holds. -/
theorem greeting_included_gives (scope : Scope) (own : Table Json) (depth : Nat) :
    Rendering.Gives scope (includeTemplate (Def.invoke (depth + 1)) greeting own) Buffer.flatten
      ((Scope.shown { vars := own, globals := scope.globals, policy := scope.policy } "name").map
        greetingText) :=
  includeTemplate_gives (greeting_gives rfl depth)

theorem byline_writes (scope : Scope) (depth : Nat) :
    Writes scope ((Stmt.write [.includeTemplate 0 [("name", .lookupOrNull "author")]]).run
      (Def.invoke (depth + 1)) { dependencies := [greeting] })
      ((scope.shown "author").map greetingText) := by
  have entries : Rendering.Gives scope (Expr.evalPairs (Def.invoke (depth + 1))
      { dependencies := [greeting] } [("name", .lookupOrNull "author")])
      (List.map fun pair => (pair.1, pair.2.toJson)) _ :=
    Expr.evalPairs_cons_gives (Expr.eval_lookupOrNull_gives "author" Value.toJson) (.pure [] _)
  refine .write ((Expr.eval_includeTemplate_gives (by rfl) entries fun own =>
    greeting_included_gives scope own depth).congr ?_)
  rw [Scope.shown]
  cases scope.lookup "author" <;> rfl

theorem article_gives {scope : Scope} (fresh : scope.defs = ∅) (depth : Nat) :
    Gives (article page greeting) scope (depth + 3) (do
      let headline ← scope.shown "headline"
      let author ← scope.shown "author"
      let body ← scope.shown "body"
      return documentText headline (articleText headline author body)) := by
  have found := Scope.def?_bindInto_of_fresh fresh (article page greeting)
  have main : Writes ((article page greeting).bindInto scope)
      (Stmt.runAll (Def.invoke (depth + 2)) {} page.entryPoint.body)
      (do return documentText (← inOrder _) (← inOrder _)) :=
    page_main_writes (found "title") (found "content")
      (Def.invoke_gives (.body (.cons (.shown "headline") .nil)))
      (Def.invoke_gives (.body (.cons (.text _) (.cons (.shown "headline") (.cons (.text _)
        (.cons (byline_writes _ depth) (.cons (.text _) (.cons (.shown "body")
          (.cons (.text _) .nil)))))))))
  refine runMain_gives (found Template.mainName) (Def.invoke_gives (main.congr ?_)) _
  simp only [inOrder_singleton, Scope.shown_bindInto]
  cases scope.shown "headline" with
  | error _ => rfl
  | ok headline => cases scope.shown "author" <;> cases scope.shown "body" <;> rfl

/-! ## The list -/

/-- An item of a list; every second one is marked. -/
def itemText (item : Json) (position : Nat) : String :=
  String.join ["<li", if position % 2 = 1 then " class=\"odd\"" else "", ">",
    Html.escape item.text, "</li>"]

/-- A list of items in order. -/
def listText (items : List Json) : String :=
  String.join ["<ul>", String.join (items.zipIdx.map fun entry => itemText entry.1 entry.2),
    "</ul>"]

/-- What is said about items that are no array. -/
def itemsComplaint : Complaint :=
  { text := "list: `items` must be an array, got: ", showsValue := true }

theorem item_writes (scope : Scope) (invoke : Invocation) (item : Json) (position : Nat) :
    Writes scope (Stmt.runAll invoke { current := some (item, position) } [
        .text "<li",
        .cond .isOdd [.attributes [("class", .text "odd")]] [],
        .text ">",
        .writeEscaped [.item],
        .text "</li>"])
      (.ok (itemText item position)) := by
  have marked : Writes scope (Stmt.runAll invoke { current := some (item, position) }
      [.attributes [("class", .text "odd")]]) (.ok " class=\"odd\"") := by
    have written : Writes scope (Stmt.runAll invoke { current := some (item, position) }
        [.attributes [("class", .text "odd")]]) (inOrder [_]) :=
      .body (.cons (.attributes (Expr.evalPairs_cons_gives (.pure (.text "odd") Value.toAttribute)
        (.pure [] _))) .nil)
    refine written.congr ?_
    rw [inOrder_singleton]
    exact congrArg Except.ok (by decide)
  have odd : Rendering.Gives scope (Expr.isOdd.eval invoke { current := some (item, position) })
      Value.isTruthy (.ok (decide (position % 2 = 1))) :=
    .pure (.bool _) Value.isTruthy
  have shown : Rendering.Gives scope (Expr.item.eval invoke { current := some (item, position) })
      (·.toContent.escape.text) (.ok (Html.escape item.text)) :=
    .pure (Value.json item) fun value => value.toContent.escape.text
  have writes : Writes scope (Stmt.runAll invoke { current := some (item, position) } _)
      (inOrder _) :=
    .body (.cons (.text "<li") (.cons (.cond odd marked (.body .nil)) (.cons (.text ">")
      (.cons (.writeEscaped shown) (.cons (.text "</li>") .nil)))))
  refine writes.congr ?_
  by_cases second : position % 2 = 1
  · rw [itemText, if_pos second, if_pos (decide_eq_true second)]
    rfl
  · rw [itemText, if_neg second, if_neg (by simpa using second)]
    rfl

theorem list_gives {scope : Scope} (fresh : scope.defs = ∅) (depth : Nat) :
    Gives list scope (depth + 1) (do
      match (← scope.lookup "items").getD .null with
      | .array items => return listText items
      | data => throw (.notAnArray itemsComplaint data)) := by
  have found := Scope.def?_bindInto_of_fresh fresh list
  have writes : Writes (list.bindInto scope)
      (Stmt.runAll (Def.invoke depth) {} list.entryPoint.body) (inOrder _) :=
    .body (.cons (.text _) (.cons
      (.loop (Expr.eval_lookupOrNull_gives "items" Value.toJson) (item_writes _ _))
      (.cons (.text _) .nil)))
  refine runMain_gives (found Template.mainName) (Def.invoke_gives (writes.congr ?_)) _
  rw [Template.lookup_bindInto]
  cases scope.lookup "items" with
  | error _ => rfl
  | ok items =>
      match items with
      | none => rfl
      | some data => cases data <;> rfl

/-! ## The field -/

/-- The names that a field has attributes for. -/
def fieldNames : List String := ["name", "value", "checked", "disabled"]

/-- An input element of a type, with attributes. -/
def fieldText (type : String) (attributes : List (String × AttributeValue)) : String :=
  String.join ["<input type=\"", type, "\"",
    String.join (attributes.map fun pair => pair.2.shown pair.1), ">"]

theorem field_gives {scope : Scope} (fresh : scope.defs = ∅) (depth : Nat) :
    Gives field scope (depth + 1) (do
      let type ← scope.shownOr "type" "text"
      let attributes ← fieldNames.mapM fun name =>
        (scope.lookup name).map fun found => (name, (Value.ofOption found).toAttribute)
      return fieldText type attributes) := by
  have found := Scope.def?_bindInto_of_fresh fresh field
  have writes : Writes (field.bindInto scope)
      (Stmt.runAll (Def.invoke depth) {} field.entryPoint.body) (inOrder _) :=
    .body (.cons (.text _) (.cons (.shownOr "type" (.json (.string "text")) "text" (by decide))
      (.cons (.text _) (.cons
        (.attributes (Expr.evalPairs_lookups_gives Value.toAttribute fieldNames))
        (.cons (.text _) .nil)))))
  refine runMain_gives (found Template.mainName) (Def.invoke_gives (writes.congr ?_)) _
  simp only [Scope.shownOr_bindInto, Template.lookup_bindInto]
  cases scope.shownOr "type" "text" with
  | error _ => rfl
  | ok type =>
      cases fieldNames.mapM fun name =>
        (scope.lookup name).map fun found => (name, (Value.ofOption found).toAttribute) <;> rfl

/-! ## All of them -/

theorem Gives.endsWithin {template : Template} {scope : Scope} {depth : Nat}
    {outcome : Except RenderError String} (gives : Gives template scope depth outcome) :
    (template.bind scope).EndsWithin depth outcome :=
  Bound.endsWithin_of_gives gives

theorem Gives.endsWithin_of_eq {template : Template} {scope : Scope} {depth : Nat}
    {outcome other : Except RenderError String} (gives : Gives template scope depth outcome)
    (same : outcome = other) : (template.bind scope).EndsWithin depth other :=
  same ▸ gives.endsWithin

/-- Under an identifier there is one of the five templates. -/
theorem eq_of_get?_catalogue {id : String} {template : Template}
    (known : catalogue.get? id = some template) :
    (id = "article" ∧ template = article page greeting) ∨ (id = "field" ∧ template = field) ∨
      (id = "greeting" ∧ template = greeting) ∨ (id = "list" ∧ template = list) ∨
      (id = "page" ∧ template = page) := by
  have member := Table.mem_of_get? known
  simpa [catalogue] using member

/-- Every builtin template ends within the depth it is granted, in every scope. -/
theorem exists_endsWithin {id : String} {template : Template}
    (known : catalogue.get? id = some template) {scope : Scope} (fresh : scope.defs = ∅) :
    ∃ outcome, (template.bind scope).EndsWithin depth outcome := by
  rcases eq_of_get?_catalogue known with ⟨_, rfl⟩ | ⟨_, rfl⟩ | ⟨_, rfl⟩ | ⟨_, rfl⟩ | ⟨_, rfl⟩
  · exact ⟨_, (article_gives fresh 5).endsWithin⟩
  · exact ⟨_, (field_gives fresh 7).endsWithin⟩
  · exact ⟨_, (greeting_gives fresh 7).endsWithin⟩
  · exact ⟨_, (list_gives fresh 7).endsWithin⟩
  · exact ⟨_, (page_gives fresh 6).endsWithin⟩

end Builtin

end Stencil
