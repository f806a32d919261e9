/-!
Text as the client meets it. A text is a list of code points. A code point is a Unicode scalar
value or one of the 2048 surrogates, which an escape in a JSON string can name on its own.
-/
namespace DemurrageToken

/-- A code point. Surrogates are counted from the first one, U+D800. -/
inductive CodePoint where
  | scalar (char : Char)
  | surrogate (index : Fin 2048)
deriving DecidableEq, Inhabited

namespace CodePoint

/-- The number that Unicode assigns to the code point. -/
def val : CodePoint → Nat
  | scalar c => c.toNat
  | surrogate i => 0xD800 + i.val

/-- The code point of a number. Numbers above U+10FFFF have none and give U+0000. -/
def ofNat (n : Nat) : CodePoint :=
  if 0xD800 ≤ n ∧ n ≤ 0xDFFF then surrogate (Fin.ofNat 2048 (n - 0xD800)) else scalar (Char.ofNat n)

def isSurrogate : CodePoint → Bool
  | scalar _ => false
  | surrogate _ => true

def isAscii (c : CodePoint) : Bool := c.val < 0x80

/-- Whether the code point lies in one of some closed ranges. -/
def isWithin (ranges : List (Nat × Nat)) (c : CodePoint) : Bool :=
  ranges.any fun range => range.1 ≤ c.val && c.val ≤ range.2

instance : Coe Char CodePoint := ⟨scalar⟩

/-- The character, where the code point is one. -/
def char? : CodePoint → Option Char
  | scalar c => some c
  | surrogate _ => none

end CodePoint

abbrev Text := List CodePoint

namespace Text

def ofChars (cs : List Char) : Text := cs.map .scalar

def ofString (s : String) : Text := ofChars s.toList

instance : Coe String Text := ⟨ofString⟩

/-- The characters of the text, if it holds no surrogate. -/
def chars? (t : Text) : Option (List Char) := t.mapM CodePoint.char?

/-- A natural number in decimal, without leading zeros. -/
def ofNat (n : Nat) : Text := ofChars (Nat.toDigits 10 n)

/-- An integer in decimal, with a minus sign if it is negative. -/
def ofInt : Int → Text
  | .ofNat n => ofNat n
  | .negSucc n => '-' :: ofNat (n + 1)

/-- The lower-case hexadecimal digits of a number, padded with zeros to a width. -/
def hex (width n : Nat) : Text :=
  let digits := Nat.toDigits 16 n
  ofChars (List.replicate (width - digits.length) '0' ++ digits)

/-- The texts in a row with a separator between neighbours. -/
def join (separator : Text) : List Text → Text
  | [] => []
  | [t] => t
  | t :: u :: rest => t ++ separator ++ join separator (u :: rest)

/-- The rest of a text that begins with the given one. -/
def dropStart? : Text → Text → Option Text
  | [], t => some t
  | _ :: _, [] => none
  | p :: ps, c :: cs => if p = c then dropStart? ps cs else none

def startsWith (start t : Text) : Bool := (dropStart? start t).isSome

/-- Drop the code points with a property from the end. -/
def dropEndWhile (p : CodePoint → Bool) (t : Text) : Text := (t.reverse.dropWhile p).reverse

/-- Upper-case ASCII letters become lower-case; all else stays. -/
def lowerAscii (t : Text) : Text :=
  t.map fun
    | .scalar c => .scalar c.toLower
    | .surrogate i => .surrogate i

end Text

end DemurrageToken
