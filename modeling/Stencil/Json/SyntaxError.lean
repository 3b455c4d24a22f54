/-!
# What can be wrong with a JSON text

A `SyntaxError` names what was found and where: the line and the column of a position in the text,
both counted in bytes. A reader stops at a place in the characters left to it; `Stop.locate` turns
that place into a line and a column of the whole text.
-/

namespace Stencil

namespace Json

/-- What is wrong with a JSON text. -/
inductive Cause where
  | unfinishedValue
  | unfinishedList
  | unfinishedObject
  | unfinishedString
  | expectedValue
  | expectedWord
  | expectedListEnd
  | expectedObjectEnd
  | expectedColon
  | expectedKey
  | trailingComma
  | trailingCharacters
  | invalidNumber
  | numberOutOfRange
  | controlCharacter
  | invalidEscape
  | loneSurrogate
  | unpairedSurrogate
  | tooDeep
  deriving DecidableEq, Repr

/-- The wording of a cause. -/
def Cause.message : Cause → String
  | .unfinishedValue => "EOF while parsing a value"
  | .unfinishedList => "EOF while parsing a list"
  | .unfinishedObject => "EOF while parsing an object"
  | .unfinishedString => "EOF while parsing a string"
  | .expectedValue => "expected value"
  | .expectedWord => "expected ident"
  | .expectedListEnd => "expected `,` or `]`"
  | .expectedObjectEnd => "expected `,` or `\x7d`"
  | .expectedColon => "expected `:`"
  | .expectedKey => "key must be a string"
  | .trailingComma => "trailing comma"
  | .trailingCharacters => "trailing characters"
  | .invalidNumber => "invalid number"
  | .numberOutOfRange => "number out of range"
  | .controlCharacter => "control character (\\u0000-\\u001F) found while parsing a string"
  | .invalidEscape => "invalid escape"
  | .loneSurrogate => "lone leading surrogate in hex escape"
  | .unpairedSurrogate => "unexpected end of hex escape"
  | .tooDeep => "recursion limit exceeded"

/-- What is wrong with a JSON text, and where. -/
structure SyntaxError where
  /-- What was found. -/
  cause : Cause
  /-- The line, counted from one. -/
  line : Nat
  /-- The bytes of the line up to and with the offending one. -/
  column : Nat
  deriving DecidableEq, Repr

/-- The text of a syntax error. -/
def SyntaxError.message (error : SyntaxError) : String :=
  error.cause.message ++ " at line " ++ toString error.line ++ " column " ++ toString error.column

/-- The point at which a reader gives up: `ahead` bytes into the characters left to it. -/
structure Stop where
  /-- What was found. -/
  cause : Cause
  /-- The characters not yet consumed. -/
  rest : List Char
  /-- How many bytes of these the reader has looked at. -/
  ahead : Nat

/-- The number of bytes of a text. -/
def byteCount : List Char → Nat
  | [] => 0
  | char :: rest => char.utf8Size + byteCount rest

/--
The line and the column reached after a number of bytes of a text, counted on from a given line
and column. A position inside a character counts the bytes before it; a position behind the end is
the end.
-/
def locate : List Char → Nat → Nat → Nat → Nat × Nat
  | [], _, line, column => (line, column)
  | _ :: _, 0, line, column => (line, column)
  | char :: rest, bytes + 1, line, column =>
      if char = '\n' then locate rest bytes (line + 1) 0
      else if char.utf8Size ≤ bytes + 1 then
        locate rest (bytes + 1 - char.utf8Size) line (column + char.utf8Size)
      else (line, column + (bytes + 1))

/-- The syntax error of a reader that gave up on a text. -/
def Stop.inText (stop : Stop) (text : List Char) : SyntaxError :=
  let position := locate text (byteCount text - byteCount stop.rest + stop.ahead) 1 0
  { cause := stop.cause, line := position.1, column := position.2 }

end Json

end Stencil
