import Stencil.Scope

/-!
# Summaries

One-line descriptions of values, scopes and templates. They name every part, so a summary shows a
value's kind and spelling exactly.
-/

namespace Stencil

/-- Items between brackets, with commas. -/
def listSummary (opening : String) (items : List String) (closing : String) : String :=
  opening ++ ", ".intercalate items ++ closing

namespace Json

mutual

/-- The description of a value. -/
def summary : Json → String
  | .null => "Null"
  | .bool true => "Bool(true)"
  | .bool false => "Bool(false)"
  | .number value => "Number(" ++ String.ofList (spellNumber value) ++ ")"
  | .string value => "String(" ++ Text.quote value ++ ")"
  | .array items => listSummary "Array [" (itemSummaries items) "]"
  | .object fields => listSummary "Object \x7b" (fieldSummaries fields) "\x7d"

/-- The descriptions of elements. -/
def itemSummaries : List Json → List String
  | [] => []
  | item :: items => item.summary :: itemSummaries items

/-- The descriptions of named values. -/
def fieldSummaries : List (String × Json) → List String
  | [] => []
  | (name, value) :: fields =>
      (Text.quote name ++ ": " ++ value.summary) :: fieldSummaries fields

end

end Json

/-- The name of a policy. -/
def Policy.summary : Policy → String
  | .lenient => "Lenient"
  | .strict => "Strict"

/-- The description of a scope: its variables, the names of its defs and its policy. -/
def Scope.summary (scope : Scope) : String :=
  "Scope \x7b vars: " ++ listSummary "\x7b" (Json.fieldSummaries scope.vars.entries) "\x7d" ++
    ", defs: " ++ Text.quoteList scope.defs.names ++
    ", policy: " ++ scope.policy.summary ++ " \x7d"

/-- The description of a template: its parts by name. -/
def Template.summary (template : Template) : String :=
  "Template \x7b id: " ++ Text.storedName template.id ++
    ", parent: " ++ Text.quoteOption (template.parent?.map Template.id) ++
    ", defs: " ++ Text.quoteList (template.defs.map Prod.fst) ++
    ", has_main: " ++ (if template.hasMain then "true" else "false") ++ " \x7d"

end Stencil
