/-!
Binary floating point numbers of 64 bits, held exactly. The finite magnitudes are counted upwards
from zero, so each number has one representation and the next magnitude has the next count.
-/
namespace DemurrageToken

/-- How many finite magnitudes share an exponent: `2 ^ 52`. -/
abbrev Binary64.perExponent : Nat := 0x10000000000000

/-- The finite magnitudes, of 2047 exponents. A magnitude is its place among them in ascending
order. -/
abbrev Binary64.Magnitude : Type := Fin (2047 * Binary64.perExponent)

/-- A number of the binary64 format. All NaNs are one. -/
inductive Binary64 where
  | nan
  | infinite (negative : Bool)
  | finite (negative : Bool) (magnitude : Binary64.Magnitude)
deriving DecidableEq

/-- A non-negative decimal, `digits * 10 ^ exponent`. -/
structure Decimal where
  digits : Nat
  exponent : Int
deriving DecidableEq

namespace Binary64

/-- The integer significand of a magnitude. -/
def significand (magnitude : Magnitude) : Nat :=
  if magnitude.val < perExponent then magnitude.val
  else perExponent + magnitude.val % perExponent

/-- The exponent of a magnitude: its value is `significand * 2 ^ exponent`. -/
def exponent (magnitude : Magnitude) : Int :=
  if magnitude.val < perExponent then -1074
  else (magnitude.val / perExponent : Nat) - 1075

/-- A quotient rounded to the nearest integer, a tie to the even one. -/
def nearest (numerator denominator : Nat) : Nat :=
  let quotient := numerator / denominator
  let rest := numerator % denominator
  if 2 * rest < denominator then quotient
  else if denominator < 2 * rest then quotient + 1
  else if quotient % 2 = 0 then quotient
  else quotient + 1

/-- The quotient of `numerator * 2 ^ shift` by `denominator`, as a fraction of naturals. -/
def scaled (numerator denominator : Nat) (shift : Int) : Nat × Nat :=
  (numerator * Nat.pow 2 shift.toNat, denominator * Nat.pow 2 (-shift).toNat)

/-- The exponent at which a positive quotient has a significand of 53 bits, or the least exponent
where the format has no smaller one. -/
def exponentOf (numerator denominator : Nat) : Int :=
  let guess : Int := (Nat.log2 numerator : Int) - (Nat.log2 denominator : Int) - 52
  let (n, d) := scaled numerator denominator (-guess)
  max (-1074) (if n < perExponent * d then guess - 1 else guess)

/-- The number nearest to a quotient, a tie to the even significand; infinity from half a step
above the greatest finite magnitude on. -/
def ofRatio (negative : Bool) (numerator denominator : Nat) : Binary64 :=
  let e := exponentOf numerator denominator
  let (n, d) := scaled numerator denominator (-e)
  let magnitude := (e + 1074).toNat * perExponent + nearest n d
  if h : magnitude < 2047 * perExponent then finite negative ⟨magnitude, h⟩
  else infinite negative

/-- The number nearest to a decimal. Decimals of 10^310 and more are infinite, and those below
10^(-330) are zero, whatever their digits, so the powers of ten stay small. -/
def ofDecimal (negative : Bool) (d : Decimal) : Binary64 :=
  let magnitude : Int := (Nat.toDigits 10 d.digits).length + d.exponent
  if d.digits = 0 ∨ magnitude < -330 then finite negative 0
  else if 310 < magnitude then infinite negative
  else
    ofRatio negative (d.digits * Nat.pow 10 d.exponent.toNat) (Nat.pow 10 (-d.exponent).toNat)

/-- The decimal that equals a magnitude. -/
def exactDecimal (magnitude : Magnitude) : Decimal :=
  let m := significand magnitude
  let e := exponent magnitude
  if 0 ≤ e then ⟨m * Nat.pow 2 e.toNat, 0⟩ else ⟨m * Nat.pow 5 (-e).toNat, e⟩

/-- The integer that equals the number, if there is one. -/
def toInt? : Binary64 → Option Int
  | finite negative magnitude =>
    let m := significand magnitude
    let e := exponent magnitude
    let size? :=
      if 0 ≤ e then some (m * Nat.pow 2 e.toNat)
      else
        let unit := Nat.pow 2 (-e).toNat
        if m % unit = 0 then some (m / unit) else none
    size?.map fun size => if negative then -(size : Int) else size
  | _ => none

end Binary64

end DemurrageToken
