/-!
# Ranges of character codes

A character class given by a standard is a list of closed ranges of code points.
-/

namespace Stencil

namespace Text

/-- The first and the last code of a range. -/
abbrev CodeRange := Nat × Nat

namespace CodeRange

/-- Whether a character's code lies in a range. -/
def contains (range : CodeRange) (char : Char) : Bool :=
  range.1 ≤ char.toNat && char.toNat ≤ range.2

end CodeRange

end Text

end Stencil
