import Stencil.Bound
import Stencil.Registry

/-!
# The builtin templates

Five templates that are always at hand: a greeting, a list, an input field, a page with a title and
a content block, and an article, which is a page with blocks of its own and includes a greeting.
-/

namespace Stencil

namespace Builtin

/-- A paragraph that greets `name`. -/
def greeting : Template :=
  .root "greeting" (.mk [
    .text "<p class=\"greeting\">Hello, ",
    .writeEscaped [.lookupOrNull "name"],
    .text "!</p>"] []) []

/-- An unordered list of `items`, every second one marked as odd. -/
def list : Template :=
  .root "list" (.mk [
    .text "<ul>",
    .forEach (.lookupOrNull "items")
      { text := "list: `items` must be an array, got: ", showsValue := true } [
        .text "<li",
        .cond .isOdd [.attributes [("class", .text "odd")]] [],
        .text ">",
        .writeEscaped [.item],
        .text "</li>"],
    .text "</ul>"] []) []

/-- An input element with the attributes that are given. -/
def field : Template :=
  .root "field" (.mk [
    .text "<input type=\"",
    .writeEscaped [.orElse (.lookup "type") (.literal (.json (.string "text")))],
    .text "\"",
    .attributes [
      ("name", .lookup "name"),
      ("value", .lookup "value"),
      ("checked", .lookup "checked"),
      ("disabled", .lookup "disabled")],
    .text ">"] []) []

/-- A document with a `title` block and a `content` block. -/
def page : Template :=
  .root "page" (.mk [
    .text "<!DOCTYPE html>\n<html><head><title>",
    .write [.call "title" []],
    .text "</title></head><body>",
    .write [.call "content" []],
    .text "</body></html>"] []) [
      ("title", .mk [
        .writeEscaped [.orElse (.lookup "title") (.literal (.markup ⟨"Untitled"⟩))]] []),
      ("content", .mk [] [])]

/-- A page about `headline`, with a greeting of the `author` before the `body`. -/
def article (page greeting : Template) : Template :=
  .extending "article" page [
    ("title", .mk [.writeEscaped [.lookupOrNull "headline"]] []),
    ("content", .mk [
      .text "<article><h1>",
      .writeEscaped [.lookupOrNull "headline"],
      .text "</h1>",
      .write [.includeTemplate 0 [("name", .lookupOrNull "author")]],
      .text "<div class=\"body\">",
      .writeEscaped [.lookupOrNull "body"],
      .text "</div></article>"] [greeting])]

/-- The modules of the builtin templates, in the order in which they are registered. -/
def modules : List Module := [
  { id := "greeting", build := fun _ => .ok greeting },
  { id := "list", build := fun _ => .ok list },
  { id := "field", build := fun _ => .ok field },
  { id := "page", build := fun _ => .ok page },
  { id := "article"
    dependencies := ["page", "greeting"]
    build := fun
      | [page, greeting] => .ok (article page greeting)
      | others => .error (.raised
          ("article: expected 2 dependencies, got " ++ toString others.length)) }]

/-- The registry of the builtin templates. -/
def registry : Except RenderError Registry :=
  Registry.defineAll {} modules

/-- The events of registering the builtin templates. -/
def registryEvents : List Event :=
  Registry.allDefinitionEvents {} modules

/-- A depth of nested calls that every builtin template gets by with. -/
def depth : Nat := 8

/-- Renders a builtin template over JSON variables, without globals. -/
def render (id : String) (vars : Json) : Except RenderError String :=
  match vars with
  | .object fields => do
      let template ← (← registry).load id
      match template.render (.ofList fields) ∅ depth with
      | some run => run.outcome
      | none => .error .callsTooDeep
  | value => .error (.varsNotAnObject value)

end Builtin

end Stencil
