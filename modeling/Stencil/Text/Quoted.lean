import Stencil.Text.Hidden

/-!
# Quoted text

Messages show names, paths and values between double quotes. A quote and a backslash get a
backslash before them, four control characters have letters, and every other hidden character is
spelled by its code, as `\u{200b}`. What is written this way holds no line break and no bare quote.
-/

namespace Stencil

namespace Text

/-- The letter that stands for a character behind a backslash. -/
def letter? : Char → Option Char
  | '\x00' => some '0'
  | '\t' => some 't'
  | '\n' => some 'n'
  | '\r' => some 'r'
  | '"' => some '"'
  | '\\' => some '\\'
  | _ => none

/-- One character of a text as it is written between quotes. -/
def quoteChar (char : Char) : List Char :=
  match letter? char with
  | some letter => ['\\', letter]
  | none =>
      if isHidden char then
        '\\' :: 'u' :: '\x7b' :: (Nat.toDigits 16 char.toNat ++ ['\x7d'])
      else [char]

/-- A text between double quotes. -/
def quote (text : String) : String :=
  String.ofList ('"' :: (text.toList.flatMap quoteChar ++ ['"']))

/-- Quoted texts between brackets, with commas. -/
def quoteList (texts : List String) : String :=
  "[" ++ ", ".intercalate (texts.map quote) ++ "]"

/-- A quoted text that may be missing. -/
def quoteOption : Option String → String
  | some text => "Some(" ++ quote text ++ ")"
  | none => "None"

/--
An identifier as summaries show it: quoted, and marked by how it is kept. Up to fifteen bytes are
kept in place, longer identifiers on their own.
-/
def storedName (name : String) : String :=
  (if name.utf8ByteSize ≤ 15 then "Inline(" else "Owned(") ++ quote name ++ ")"

end Text

end Stencil
