import DemurrageToken.Text.Category
import DemurrageToken.Text.Printable
/-!
Writing directions of the code points that may stand in a label of a domain name, as of Unicode 14.
-/
namespace DemurrageToken

inductive Direction where
  | leftToRight
  | rightToLeft
  | arabicLetter
  | arabicNumber
  | europeanNumber
  | nonspacingMark
  /-- The code point takes the direction of its neighbours. -/
  | neutral
  /-- The code point is not assigned. -/
  | unknown
deriving DecidableEq

namespace CodePoint

/-- The neutral code points, as closed ranges, ascending and apart. -/
def neutralRanges : List (Nat × Nat) :=
  [(0x2D, 0x2D), (0xB7, 0xB7), (0x2B9, 0x2BA), (0x2C6, 0x2CF), (0x2EC, 0x2EC), (0x375, 0x375),
    (0x200C, 0x200D), (0x2E2F, 0x2E2F), (0x30FB, 0x30FB), (0xA67F, 0xA67F), (0xA717, 0xA71F),
    (0xA788, 0xA788)]

/-- Marks without room of their own that count as letters here. -/
def leftToRightMarks : List Nat := [0xCBF, 0xCC6, 0x11A07, 0x11A08, 0x11C3F]

def arabicNumberRanges : List (Nat × Nat) := [(0x660, 0x669), (0x10D30, 0x10D39)]

def europeanNumberRanges : List (Nat × Nat) := [(0x30, 0x39), (0x6F0, 0x6F9)]

/-- The areas of the letters of scripts akin to Arabic. -/
def arabicLetterRanges : List (Nat × Nat) :=
  [(0x620, 0x7B1), (0x860, 0x8C9), (0xFE73, 0xFE73), (0x10D00, 0x10D23), (0x10F30, 0x10F45)]

/-- The areas of the letters of the other scripts that are written from right to left. -/
def rightToLeftRanges : List (Nat × Nat) :=
  [(0x5D0, 0x5F4), (0x7C0, 0x858), (0x10800, 0x10CF2), (0x10E80, 0x10F27), (0x10F70, 0x10FF6),
    (0x1E800, 0x1E959)]

def direction (c : CodePoint) : Direction :=
  if c.isWithin neutralRanges then .neutral
  else if !c.isPrintable then .unknown
  else if (c.isNonspacingMark || c.isEnclosingMark) && !leftToRightMarks.contains c.val then
    .nonspacingMark
  else if c.isWithin arabicNumberRanges then .arabicNumber
  else if c.isWithin europeanNumberRanges then .europeanNumber
  else if c.isWithin arabicLetterRanges then .arabicLetter
  else if c.isWithin rightToLeftRanges then .rightToLeft
  else .leftToRight

end CodePoint

end DemurrageToken
