import DemurrageToken.Binary64.Basic
/-!
The fewest decimal digits that identify a number: no decimal with fewer digits reads back as it,
and of those with as many digits the nearest is taken, a tie to the even last digit.
-/
namespace DemurrageToken.Binary64

/-- The two decimals with `dropped` digits fewer that lie around a decimal, the nearer one first.
Of two that are equally near, the one with an even last digit is first. -/
def neighbours (d : Decimal) (dropped : Nat) : List Decimal :=
  let unit := Nat.pow 10 dropped
  let below : Decimal := ⟨d.digits / unit, d.exponent + dropped⟩
  let above : Decimal := ⟨d.digits / unit + 1, d.exponent + dropped⟩
  if nearest d.digits unit = below.digits then [below, above] else [above, below]

/-- Whether a decimal reads as the magnitude. -/
def readsBack (magnitude : Magnitude) (d : Decimal) : Bool :=
  ofDecimal false d = finite false magnitude

/-- Zeros at the end of the digits go into the exponent. -/
def stripZeros : Nat → Decimal → Decimal
  | 0, d => d
  | bound + 1, d =>
    if d.digits ≠ 0 ∧ d.digits % 10 = 0 then stripZeros bound ⟨d.digits / 10, d.exponent + 1⟩ else d

/-- The shortest decimal that reads as the magnitude: more and more digits of the exact decimal
are kept, up to all of them. -/
def shortest (magnitude : Magnitude) : Decimal :=
  let exact := exactDecimal magnitude
  let length := (Nat.toDigits 10 exact.digits).length
  let found :=
    (List.range (length - 1)).findSome? fun kept =>
      (neighbours exact (length - (kept + 1))).find? (readsBack magnitude)
  let chosen := found.getD exact
  stripZeros (Nat.toDigits 10 chosen.digits).length chosen

end DemurrageToken.Binary64
