import Stencil.Json.Numeral
import Stencil.Table

/-!
# Reading JSON text

`Json.parse` reads a whole text as one value. Of two fields of one name the later wins, and no more
than 127 containers may be open at a time. A text that is no value is answered with what is wrong
and where.

The readers work on the characters not yet consumed. A container's reader is given the reader of
its elements, so the nesting is a plain recursion on the number of containers that may still be
opened; loops over characters, elements and fields are bounded by the length of the text.
-/

namespace Stencil

namespace Json

/-- The white space that may stand between the parts of a text. -/
def isSpace (char : Char) : Bool :=
  char = ' ' || char = '\n' || char = '\t' || char = '\r'

/-- A text without the white space at its front. -/
def skipSpace (chars : List Char) : List Char :=
  chars.dropWhile isSpace

/-- The value of a hexadecimal digit. -/
def hexValue? (char : Char) : Option Nat :=
  if char.isDigit then some (char.toNat - '0'.toNat)
  else if 'a' ≤ char && char ≤ 'f' then some (char.toNat - 'a'.toNat + 10)
  else if 'A' ≤ char && char ≤ 'F' then some (char.toNat - 'A'.toNat + 10)
  else none

/-- The value of four hexadecimal digits at the front of a text. -/
def hexCode? : List Char → Option (Nat × List Char)
  | a :: b :: c :: d :: rest => do
      let a ← hexValue? a
      let b ← hexValue? b
      let c ← hexValue? c
      let d ← hexValue? d
      return (((a * 16 + b) * 16 + c) * 16 + d, rest)
  | _ => none

/-- Four hexadecimal digits; four bytes are looked at, or none if the text has fewer. -/
def readHexCode (chars : List Char) : Reading Nat :=
  match hexCode? chars with
  | some found => .ok found
  | none =>
      if byteCount chars < 4 then .error ⟨.unfinishedString, [], 0⟩
      else .error ⟨.invalidEscape, chars, 4⟩

/-- The second half of a character that is spelled by two codes, given the first. -/
def readLowCode (high : Nat) : List Char → Reading Char
  | [] => .error ⟨.unfinishedString, [], 0⟩
  | '\\' :: [] => .error ⟨.unfinishedString, [], 0⟩
  | '\\' :: 'u' :: rest =>
      (readHexCode rest).andThen fun low rest =>
        if 0xDC00 ≤ low && low ≤ 0xDFFF then
          .ok (Char.ofNat (0x10000 + (high - 0xD800) * 0x400 + (low - 0xDC00)), rest)
        else .error ⟨.loneSurrogate, rest, 0⟩
  | '\\' :: rest => .error ⟨.unpairedSurrogate, rest, 1⟩
  | rest => .error ⟨.unpairedSurrogate, rest, 1⟩

/-- A character spelled by its code, behind the `u`. -/
def readCode (chars : List Char) : Reading Char :=
  (readHexCode chars).andThen fun code rest =>
    if 0xDC00 ≤ code && code ≤ 0xDFFF then .error ⟨.loneSurrogate, rest, 0⟩
    else if 0xD800 ≤ code && code ≤ 0xDBFF then readLowCode code rest
    else .ok (Char.ofNat code, rest)

/-- The character that a letter behind a backslash stands for. -/
def unescape? : Char → Option Char
  | '"' => some '"'
  | '\\' => some '\\'
  | '/' => some '/'
  | 'b' => some '\x08'
  | 'f' => some '\x0c'
  | 'n' => some '\n'
  | 'r' => some '\r'
  | 't' => some '\t'
  | _ => none

/-- An escaped character, behind the backslash. -/
def readEscape : List Char → Reading Char
  | [] => .error ⟨.unfinishedString, [], 0⟩
  | 'u' :: rest => readCode rest
  | letter :: rest =>
      match unescape? letter with
      | some char => .ok (char, rest)
      | none => .error ⟨.invalidEscape, letter :: rest, 1⟩

/-- The characters of a string, behind the opening quote. -/
def readString : Nat → List Char → Reading (List Char)
  | 0, chars => .error ⟨.unfinishedString, chars, 0⟩
  | _ + 1, [] => .error ⟨.unfinishedString, [], 0⟩
  | bound + 1, char :: rest =>
      if char = '"' then .ok ([], rest)
      else if char = '\\' then
        (readEscape rest).andThen fun found rest => (readString bound rest).map (found :: ·)
      else if char.toNat < 0x20 then .error ⟨.controlCharacter, char :: rest, 1⟩
      else (readString bound rest).map (char :: ·)

/-- The remaining letters of a word that stands for a value. -/
def readWord (value : Json) : List Char → List Char → Reading Json
  | [], rest => .ok (value, rest)
  | _ :: _, [] => .error ⟨.unfinishedValue, [], 0⟩
  | letter :: letters, char :: rest =>
      if char = letter then readWord value letters rest
      else .error ⟨.expectedWord, char :: rest, 1⟩

/-- The elements of an array behind one of them, each with a comma before it. -/
def readMoreItems (readItem : List Char → Reading Json) :
    Nat → List Char → Reading (List Json)
  | 0, chars => .error ⟨.unfinishedList, chars, 0⟩
  | bound + 1, chars =>
      match skipSpace chars with
      | [] => .error ⟨.unfinishedList, [], 0⟩
      | ']' :: rest => .ok ([], rest)
      | ',' :: rest =>
          match skipSpace rest with
          | [] => .error ⟨.unfinishedValue, [], 0⟩
          | ']' :: rest => .error ⟨.trailingComma, ']' :: rest, 1⟩
          | start =>
              (readItem start).andThen fun item rest =>
                (readMoreItems readItem bound rest).map (item :: ·)
      | start => .error ⟨.expectedListEnd, start, 1⟩

/-- The elements of an array, behind its bracket. -/
def readItems (readItem : List Char → Reading Json) (bound : Nat) (chars : List Char) :
    Reading (List Json) :=
  match skipSpace chars with
  | [] => .error ⟨.unfinishedList, [], 0⟩
  | ']' :: rest => .ok ([], rest)
  | start =>
      (readItem start).andThen fun item rest =>
        (readMoreItems readItem bound rest).map (item :: ·)

/-- One field of an object, from its name on. -/
def readField (readItem : List Char → Reading Json) (bound : Nat) :
    List Char → Reading (String × Json)
  | '"' :: rest =>
      (readString bound rest).andThen fun name rest =>
        match skipSpace rest with
        | [] => .error ⟨.unfinishedObject, [], 0⟩
        | ':' :: rest => (readItem rest).map (String.ofList name, ·)
        | start => .error ⟨.expectedColon, start, 1⟩
  | start => .error ⟨.expectedKey, start, 1⟩

/-- The fields of an object behind one of them, each with a comma before it. -/
def readMoreFields (readItem : List Char → Reading Json) (limit : Nat) :
    Nat → List Char → Reading (List (String × Json))
  | 0, chars => .error ⟨.unfinishedObject, chars, 0⟩
  | bound + 1, chars =>
      match skipSpace chars with
      | [] => .error ⟨.unfinishedObject, [], 0⟩
      | '\x7d' :: rest => .ok ([], rest)
      | ',' :: rest =>
          match skipSpace rest with
          | [] => .error ⟨.unfinishedValue, [], 0⟩
          | '\x7d' :: rest => .error ⟨.trailingComma, '\x7d' :: rest, 1⟩
          | start =>
              (readField readItem limit start).andThen fun field rest =>
                (readMoreFields readItem limit bound rest).map (field :: ·)
      | start => .error ⟨.expectedObjectEnd, start, 1⟩

/-- The fields of an object, behind its brace. -/
def readFields (readItem : List Char → Reading Json) (bound : Nat) (chars : List Char) :
    Reading (List (String × Json)) :=
  match skipSpace chars with
  | [] => .error ⟨.unfinishedObject, [], 0⟩
  | '\x7d' :: rest => .ok ([], rest)
  | start =>
      (readField readItem bound start).andThen fun field rest =>
        (readMoreFields readItem bound bound rest).map (field :: ·)

/--
A value at the front of a text, in which at most `room` containers may be open at a time. No loop
runs longer than `bound`.
-/
def readValue (bound : Nat) : Nat → List Char → Reading Json
  | room, chars =>
      match skipSpace chars with
      | [] => .error ⟨.unfinishedValue, [], 0⟩
      | 'n' :: rest => readWord .null "ull".toList rest
      | 't' :: rest => readWord (.bool true) "rue".toList rest
      | 'f' :: rest => readWord (.bool false) "alse".toList rest
      | '"' :: rest => (readString bound rest).map fun text => .string (String.ofList text)
      | '-' :: rest => (readMagnitude true rest).map .number
      | '[' :: rest =>
          match room with
          | 0 => .error ⟨.tooDeep, '[' :: rest, 1⟩
          | room + 1 => (readItems (readValue bound room) bound rest).map .array
      | '\x7b' :: rest =>
          match room with
          | 0 => .error ⟨.tooDeep, '\x7b' :: rest, 1⟩
          | room + 1 =>
              (readFields (readValue bound room) bound rest).map fun fields =>
                .object (Table.ofList fields).entries
      | char :: rest =>
          if char.isDigit then (readMagnitude false (char :: rest)).map .number
          else .error ⟨.expectedValue, char :: rest, 1⟩

/-- The greatest number of containers that may be open at a time. -/
def maxDepth : Nat := 127

/-- A value that takes up the whole text. -/
def readText (chars : List Char) : Except Stop Json :=
  match readValue (chars.length + 1) maxDepth chars with
  | .error stop => .error stop
  | .ok (value, rest) =>
      match skipSpace rest with
      | [] => .ok value
      | start => .error ⟨.trailingCharacters, start, 1⟩

/-- The value of a JSON text. -/
def parse (text : String) : Except SyntaxError Json :=
  match readText text.toList with
  | .ok value => .ok value
  | .error stop => .error (stop.inText text.toList)

theorem eq_of_readWord {value found : Json} {letters chars rest : List Char}
    (read : readWord value letters chars = .ok (found, rest)) : found = value := by
  fun_induction readWord value letters chars with
  | case1 =>
      cases read
      rfl
  | case2 => cases read
  | case3 _ _ _ ih => exact ih read
  | case4 => cases read

theorem exists_table_of_readValue {bound room : Nat} {chars rest : List Char}
    {fields : List (String × Json)} :
    readValue bound room chars = .ok (.object fields, rest) →
      ∃ table : Table Json, table.entries = fields := by
  fun_cases readValue bound room chars with
  | case1 | case7 | case9 | case12 => exact nofun
  | case2 | case3 | case4 => exact fun read => nomatch eq_of_readWord read
  | case5 | case6 | case8 | case11 =>
      intro read
      obtain ⟨_, _, other⟩ := Reading.map_eq_ok read
      cases other
  | case10 =>
      intro read
      obtain ⟨given, _, same⟩ := Reading.map_eq_ok read
      exact ⟨.ofList given, Json.object.inj same⟩

/-- The fields of an object that is read are the entries of a table. -/
theorem exists_table_of_parse {text : String} {fields : List (String × Json)}
    (parsed : parse text = .ok (.object fields)) :
    ∃ table : Table Json, table.entries = fields := by
  unfold parse readText at parsed
  split at parsed
  · next value read =>
      cases parsed
      split at read
      · cases read
      · next value rest found =>
          split at read
          · cases read
            exact exists_table_of_readValue found
          · cases read
  · cases parsed

end Json

end Stencil
