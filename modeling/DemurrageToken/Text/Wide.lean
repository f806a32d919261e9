import DemurrageToken.Text.Utf8
/-!
Texts in units of 16 and 32 bits. Two surrogate units, a high and a low one, are one character;
any other surrogate unit stays a surrogate.
-/
namespace DemurrageToken.Wide

def isHighSurrogate (unit : Nat) : Bool := 0xD800 ≤ unit && unit ≤ 0xDBFF

def isLowSurrogate (unit : Nat) : Bool := 0xDC00 ≤ unit && unit ≤ 0xDFFF

/-- The character that a high and a low surrogate make together. -/
def joinSurrogates (high low : Nat) : CodePoint :=
  CodePoint.ofNat (0x10000 + (high - 0xD800) * 0x400 + (low - 0xDC00))

/-- The high and the low surrogate of a code point above U+FFFF. -/
def splitSurrogates (n : Nat) : Nat × Nat :=
  (0xD800 + (n - 0x10000) / 0x400, 0xDC00 + (n - 0x10000) % 0x400)

/-- The text of 16-bit units. -/
def ofUnits : List Nat → Text
  | high :: low :: rest =>
    if isHighSurrogate high && isLowSurrogate low then joinSurrogates high low :: ofUnits rest
    else CodePoint.ofNat high :: ofUnits (low :: rest)
  | [unit] => [CodePoint.ofNat unit]
  | [] => []

/-- Which byte of a unit comes first. -/
inductive Order where
  | bigEndian
  | littleEndian
deriving DecidableEq

/-- The 16-bit units of bytes, if their number is even. -/
def units16 (order : Order) : Bytes → Option (List Nat)
  | a :: b :: rest =>
    let unit := match order with
      | .bigEndian => a.toNat * 0x100 + b.toNat
      | .littleEndian => b.toNat * 0x100 + a.toNat
    (units16 order rest).map (unit :: ·)
  | [_] => none
  | [] => some []

def decode16 (order : Order) (bytes : Bytes) : Option Text := (units16 order bytes).map ofUnits

/-- The text of 32-bit units, if they are whole and none is above U+10FFFF. -/
def decode32 (order : Order) : Bytes → Option Text
  | a :: b :: c :: d :: rest =>
    let number (a b c d : UInt8) :=
      ((a.toNat * 0x100 + b.toNat) * 0x100 + c.toNat) * 0x100 + d.toNat
    let unit := match order with
      | .bigEndian => number a b c d
      | .littleEndian => number d c b a
    if unit ≤ 0x10FFFF then (decode32 order rest).map (CodePoint.ofNat unit :: ·) else none
  | [] => some []
  | _ => none

end DemurrageToken.Wide
