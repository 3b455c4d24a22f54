import Stencil.Text.CodeRange

/-!
# Blank characters

White space as Unicode defines it. `trim` removes it from both ends of a text.
-/

namespace Stencil

namespace Text

/-- The codes of the blank characters. -/
def blankCodes : List CodeRange :=
  [(0x9, 0xD), (0x20, 0x20), (0x85, 0x85), (0xA0, 0xA0), (0x1680, 0x1680), (0x2000, 0x200A),
   (0x2028, 0x2029), (0x202F, 0x202F), (0x205F, 0x205F), (0x3000, 0x3000)]

/-- Whether a character is white space. -/
def isBlank (char : Char) : Bool :=
  blankCodes.any (CodeRange.contains · char)

/-- A text without the white space at its ends. -/
def trim (text : String) : String :=
  String.ofList ((text.toList.dropWhile isBlank).reverse.dropWhile isBlank).reverse

end Text

end Stencil
