import Stencil.Proofs.BuiltinOutput

/-!
# The documents of pages and articles

An article is a page: the skeleton of a document is written by the page, and the article only
supplies the blocks in it. Their names, `title` and `content`, are those of blocks and not of
variables, and the `name` that is greeted is the one that is passed on; so an article is decided by
three names alone, and a strict policy makes it fail at the first of them that has no value. A page
of its own takes its title from the context, and has no content.
-/

namespace Stencil

namespace Scope

/-- Whether a lookup fails: a strict policy, and no value in the context or the globals. -/
def misses (scope : Scope) (name : String) : Bool :=
  scope.policy = .strict && (scope.resolve name).isNone

/-- The escaped text of the value of a name; without a value it is that of null. -/
def display (scope : Scope) (name : String) : String :=
  Html.escape ((scope.resolve name).getD .null).text

theorem lookup_eq (scope : Scope) (name : String) :
    scope.lookup name =
      if scope.misses name then .error (.nameNotFound name) else .ok (scope.resolve name) := by
  rw [lookup, misses]
  cases scope.resolve name <;> cases scope.policy <;> rfl

theorem shown_eq (scope : Scope) (name : String) :
    scope.shown name =
      if scope.misses name then .error (.nameNotFound name) else .ok (scope.display name) := by
  rw [shown, lookup_eq]
  split <;> rfl

end Scope

namespace Builtin

variable {scope : Scope}

theorem article_endsWithin (fresh : scope.defs = ∅) :
    ((article page greeting).bind scope).EndsWithin depth
      (match ["headline", "author", "body"].find? scope.misses with
      | some name => .error (.nameNotFound name)
      | none => .ok (documentText (scope.display "headline")
          (articleText (scope.display "headline") (scope.display "author")
            (scope.display "body")))) := by
  refine (article_gives fresh 5).endsWithin_of_eq ?_
  simp only [Scope.shown_eq, List.find?_cons]
  -- The title and the content both show the headline; it is the title that fails without one.
  cases scope.misses "headline" with
  | true => rfl
  | false =>
      cases scope.misses "author" with
      | true => rfl
      | false => cases scope.misses "body" <;> rfl

theorem page_endsWithin (fresh : scope.defs = ∅) :
    (page.bind scope).EndsWithin depth
      (match scope.resolve "title", scope.policy with
      | some title, _ => .ok (documentText (Html.escape title.text) "")
      | none, .lenient => .ok (documentText "Untitled" "")
      | none, .strict => .error (.nameNotFound "title")) := by
  refine (page_gives fresh 6).endsWithin_of_eq ?_
  rw [Scope.shownOr, Scope.lookup]
  cases scope.resolve "title" <;> cases scope.policy <;> rfl

/--
An article is a document with the headline as its title, and with the headline, a greeting of the
author, and the body as its content, each with the value it has in the context, else in the globals,
else null; a strict policy makes it fail with the first of the three names that has no value. No
other name plays a role. A page is the same document without a content; its title may be null, and
where there is none, it is replaced or it is missed, as the policy has it.
-/
theorem documents_as_specified (fresh : scope.defs = ∅) :
    (∃ article, (do (← registry).load "article") = .ok article ∧
      (article.bind scope).EndsWithin depth
        (match ["headline", "author", "body"].find? scope.misses with
        | some name => .error (.nameNotFound name)
        | none => .ok (documentText (scope.display "headline")
            (articleText (scope.display "headline") (scope.display "author")
              (scope.display "body"))))) ∧
    ∃ page, (do (← registry).load "page") = .ok page ∧
      (page.bind scope).EndsWithin depth
        (match scope.resolve "title", scope.policy with
        | some title, _ => .ok (documentText (Html.escape title.text) "")
        | none, .lenient => .ok (documentText "Untitled" "")
        | none, .strict => .error (.nameNotFound "title")) :=
  ⟨⟨article page greeting, rfl, article_endsWithin fresh⟩, page, rfl, page_endsWithin fresh⟩

/-- A note whose context and globals have values for the blocks of a page and for the greeting. -/
def note : Scope :=
  { vars := .ofList [
      ("author", .string "Ann & Co"), ("content", .string "none"), ("headline", .null),
      ("title", .array [])]
    globals := .ofList [
      ("body", .array [.string "<hr>", .bool true]), ("headline", .string "Global"),
      ("name", .string "Eve")]
    policy := .strict }

/-- The note without a title, an author and a body. -/
def untitledNote : Scope :=
  { note with
    vars := .ofList [("content", .null), ("name", .null)]
    globals := .ofList [("headline", .null)] }

/-- The note is an article of its own values; where they are missed, the first of them is named. -/
theorem note_as_specified :
    (((article page greeting).bind note).EndsWithin depth (.ok (String.join [
        "<!DOCTYPE html>\n<html><head><title>null</title></head><body><article><h1>null</h1>",
        "<p class=\"greeting\">Hello, Ann &amp; Co!</p>",
        "<div class=\"body\">&lt;hr&gt;,true</div></article></body></html>"])) ∧
      (page.bind note).EndsWithin depth (.ok
        "<!DOCTYPE html>\n<html><head><title></title></head><body></body></html>")) ∧
    ((article page greeting).bind untitledNote).EndsWithin depth (.error (.nameNotFound "author")) ∧
      (page.bind untitledNote).EndsWithin depth (.error (.nameNotFound "title")) := by
  have fresh : note.defs = ∅ := rfl
  have untitled_fresh : untitledNote.defs = ∅ := rfl
  obtain ⟨⟨_, loaded, given⟩, _, page_loaded, titled⟩ := documents_as_specified fresh
  obtain ⟨⟨_, loaded_again, missed⟩, _, page_loaded_again, untitled⟩ :=
    documents_as_specified untitled_fresh
  cases loaded
  cases page_loaded
  cases loaded_again
  cases page_loaded_again
  exact ⟨⟨given, titled⟩, missed, untitled⟩

end Builtin

end Stencil
