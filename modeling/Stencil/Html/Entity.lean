/-!
# Escaping for HTML

Five characters have a meaning in HTML text and attribute values. `escape` replaces each by its
entity and leaves everything else alone. A text without any of them is given back as it is; of any
other text, the part before the first of them is taken over as a whole, cut off at its length in
bytes, and only what follows is gone through character by character.
-/

namespace Stencil

namespace Html

/-- The entity of a reserved character. -/
def entity? : Char → Option String
  | '&' => some "&amp;"
  | '<' => some "&lt;"
  | '>' => some "&gt;"
  | '\'' => some "&#39;"
  | '"' => some "&#34;"
  | _ => none

/-- Whether a character has a meaning of its own in HTML. -/
def isReserved (char : Char) : Bool :=
  (entity? char).isSome

/-- A character, or the entity that stands for it. -/
def escapeChar (char : Char) : List Char :=
  match entity? char with
  | some entity => entity.toList
  | none => [char]

/-- The number of bytes before the first reserved character, if there is one. -/
def reservedOffset? : List Char → Option Nat
  | [] => none
  | char :: rest =>
      if isReserved char then some 0
      else (reservedOffset? rest).map (char.utf8Size + ·)

/-- Characters written behind a text, each reserved one as its entity. -/
def escapeOnto (written : String) (chars : List Char) : String :=
  chars.foldl (fun written char =>
    match entity? char with
    | some entity => written ++ entity
    | none => written.push char) written

/-- A text with every reserved character replaced by its entity. -/
def escape (text : String) : String :=
  match reservedOffset? text.toList with
  | none => text
  | some offset =>
      let first : String.Pos.Raw := ⟨offset⟩
      escapeOnto (String.Pos.Raw.extract text 0 first)
        (String.Pos.Raw.extract text first text.rawEndPos).toList

/-- Whether escaping changes a text. -/
def needsEscape (text : String) : Bool :=
  text.toList.any isReserved

end Html

end Stencil
