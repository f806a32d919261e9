import DemurrageToken.Binary64.Shortest
import DemurrageToken.Text.Basic
/-!
How a binary64 number is written: which exponents are positional, how the exponent looks, and
the words for the values that are no decimals.
-/
namespace DemurrageToken.Binary64

/-- The decisions of a number format. -/
structure Style where
  /-- The least exponent of the first digit that is written positionally. -/
  plainFrom : Int
  /-- The least exponent above those that are written positionally. -/
  plainBelow : Int
  /-- The least number of exponent digits. -/
  exponentWidth : Nat
  nan : Text
  infinity : Text

/-- The digits of a positive or zero decimal with a point, or with a point and an exponent. The
first digit has the exponent `lead`. A positional number has at least one digit on either side of
the point; an exponent always has a sign, and a single digit before it stands without a point. -/
def layout (style : Style) (d : Decimal) : List Char :=
  let digits := Nat.toDigits 10 d.digits
  let lead : Int := d.exponent + digits.length - 1
  if d.digits = 0 then ['0', '.', '0']
  else if style.plainFrom ≤ lead ∧ lead < style.plainBelow then
    if lead < 0 then '0' :: '.' :: (List.replicate (-lead - 1).toNat '0' ++ digits)
    else
      let whole := digits.take (lead.toNat + 1)
      let part := digits.drop (lead.toNat + 1)
      whole ++ List.replicate (lead.toNat + 1 - whole.length) '0' ++ '.'
        :: (if part = [] then ['0'] else part)
  else
    let mark := if lead < 0 then '-' else '+'
    let power := Nat.toDigits 10 lead.natAbs
    let scale := 'e' :: mark :: (List.replicate (style.exponentWidth - power.length) '0' ++ power)
    match digits with
    | [] => scale
    | [first] => first :: scale
    | first :: more => first :: '.' :: (more ++ scale)

/-- The text of a number in a format. -/
def write (style : Style) : Binary64 → Text
  | nan => style.nan
  | infinite negative => if negative then '-' :: style.infinity else style.infinity
  | finite negative magnitude =>
    let body := Text.ofChars (layout style (shortest magnitude))
    if negative then '-' :: body else body

end DemurrageToken.Binary64
