import DemurrageToken.Text.Basic
/-!
White space: the Unicode property, and the four information separators U+001C to U+001F.
-/
namespace DemurrageToken

/-- The white space, as closed ranges, ascending and apart. -/
def CodePoint.blankRanges : List (Nat × Nat) :=
  [(0x09, 0x0D), (0x1C, 0x20), (0x85, 0x85), (0xA0, 0xA0), (0x1680, 0x1680), (0x2000, 0x200A),
    (0x2028, 0x2029), (0x202F, 0x202F), (0x205F, 0x205F), (0x3000, 0x3000)]

def CodePoint.isBlank (c : CodePoint) : Bool := c.isWithin blankRanges

/-- White space that does not end a line. -/
def CodePoint.isInnerBlank (c : CodePoint) : Bool :=
  c.isBlank && c ≠ .scalar '\n' && c ≠ .scalar '\r'

/-- Remove the white space at both ends. -/
def Text.trim (t : Text) : Text :=
  Text.dropEndWhile CodePoint.isBlank (t.dropWhile CodePoint.isBlank)

end DemurrageToken
