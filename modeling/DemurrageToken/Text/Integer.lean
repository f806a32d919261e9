import DemurrageToken.Text.Blank
import DemurrageToken.Text.Digit
/-!
Integers as people write them: white space around them, a sign, decimal digits of any script, and
single underscores between digits.
-/
namespace DemurrageToken.Text

/-- The greatest number of digits of an integer that is read or written. -/
def integerDigitLimit : Nat := 4300

/-- Whether an integer has few enough digits to be written. -/
def hasNumeral (n : Int) : Bool := (Nat.toDigits 10 n.natAbs).length ≤ integerDigitLimit

/-- The report of an integer that has too many digits to be written. -/
def numeralLimitMessage : Text :=
  "Exceeds the limit (4300 digits) for integer string conversion; "
    ++ "use sys.set_int_max_str_digits() to increase the limit"

/-- The report of digits that are too many to be read. -/
def digitLimitMessage (count : Nat) : Text :=
  "Exceeds the limit (4300 digits) for integer string conversion: value has "
    ++ ofNat count ++ " digits; use sys.set_int_max_str_digits() to increase the limit"

/-- The white space that may stand around an integer. Of ASCII it is the space and the controls
U+0009 to U+000D. -/
def isIntegerBlank (c : CodePoint) : Bool :=
  if c.isAscii then c.val = 0x20 || (0x09 ≤ c.val && c.val ≤ 0x0D) else c.isBlank

/-- The values of digits of which each underscore has one on either side. -/
def digitValues? : Text → Option (List Nat)
  | [] => none
  | [c] => c.digitValue?.map ([·])
  | c :: d :: rest => do
    let value ← c.digitValue?
    if d = .scalar '_' then return value :: (← digitValues? rest)
    else return value :: (← digitValues? (d :: rest))

/-- The integer that a text shows. -/
def toInt? (t : Text) : Option Int := do
  let core := dropEndWhile isIntegerBlank (t.dropWhile isIntegerBlank)
  let (negative, unsigned) := match core with
    | .scalar '-' :: rest => (true, rest)
    | .scalar '+' :: rest => (false, rest)
    | _ => (false, core)
  let digits ← digitValues? unsigned
  if integerDigitLimit < digits.length then none
  else
    let size : Int := (digits.foldl (fun n d => n * 10 + d) 0 : Nat)
    return if negative then -size else size

end DemurrageToken.Text
