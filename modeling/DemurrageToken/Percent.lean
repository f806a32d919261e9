import DemurrageToken.Text.Utf8
/-!
Percent-encoding. A character that may not stand for itself is written as the bytes of its UTF-8,
each as `%` and two upper-case hexadecimal digits.
-/
namespace DemurrageToken.Percent

def isLetterOrDigit (c : CodePoint) : Bool :=
  match c with
  | .scalar c => c.isAlphanum
  | .surrogate _ => false

/-- The characters that stand for themselves in every part of a URL. -/
def isUnreserved (c : CodePoint) : Bool :=
  isLetterOrDigit c || (Text.ofString "-._~").contains c

def escapeByte (b : UInt8) : Text :=
  let digits := (Nat.toDigits 16 b.toNat).map Char.toUpper
  .scalar '%' :: Text.ofChars (List.replicate (2 - digits.length) '0' ++ digits)

/-- Encode a text, keeping the characters with a property. -/
def encode (keeps : CodePoint → Bool) (t : Text) : Text :=
  t.flatMap fun c => if keeps c then [c] else (Utf8.encodeCodePoint c).flatMap escapeByte

/-- The value of a hexadecimal digit. -/
def hexDigit? (c : CodePoint) : Option Nat :=
  let n := c.val
  if 48 ≤ n ∧ n ≤ 57 then some (n - 48)
  else if 65 ≤ n ∧ n ≤ 70 then some (n - 55)
  else if 97 ≤ n ∧ n ≤ 102 then some (n - 87)
  else none

/-- The bytes of an ASCII text, in which `%` with two hexadecimal digits is one byte and any other
`%` stands for itself. -/
def decode : Text → Bytes
  | [] => []
  | [c] => [UInt8.ofNat c.val]
  | [c, d] => [UInt8.ofNat c.val, UInt8.ofNat d.val]
  | c :: high :: low :: rest =>
    match hexDigit? high, hexDigit? low with
    | some h, some l =>
      if c = .scalar '%' then UInt8.ofNat (h * 16 + l) :: decode rest
      else UInt8.ofNat c.val :: decode (high :: low :: rest)
    | _, _ => UInt8.ofNat c.val :: decode (high :: low :: rest)

/-- A text in which `%` with two hexadecimal digits has become the code point of that number, and
any other `%` stands for itself. -/
def decodeOctets : Text → Text
  | c :: high :: low :: rest =>
    match hexDigit? high, hexDigit? low with
    | some h, some l =>
      if c = .scalar '%' then CodePoint.ofNat (h * 16 + l) :: decodeOctets rest
      else c :: decodeOctets (high :: low :: rest)
    | _, _ => c :: decodeOctets (high :: low :: rest)
  | short => short

end DemurrageToken.Percent
