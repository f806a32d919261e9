import DemurrageToken.Text.Basic
/-!
Texts written in ASCII letters, digits and hyphens. A text keeps its ASCII characters, and the
others follow after the last hyphen as differences between their numbers and places, in digits
whose weights adapt to the differences.
-/
namespace DemurrageToken.Punycode

/-- The character of a digit: 26 letters, then 10 decimal digits. -/
def digit (d : Nat) : CodePoint :=
  .scalar (Char.ofNat (if d < 26 then 97 + d else 22 + d))

/-- The weight bound of the digit at a place, between 1 and 26. -/
def threshold (place bias : Nat) : Nat := min 26 (max 1 (place - bias))

/-- The digits of a difference; the bound is larger than their number. -/
def digits (bias : Nat) : Nat → Nat → Nat → Text
  | 0, _, _ => []
  | bound + 1, place, delta =>
    let t := threshold place bias
    if delta < t then [digit delta]
    else
      digit (t + (delta - t) % (36 - t)) ::
        digits bias bound (place + 36) ((delta - t) / (36 - t))

/-- Bring a difference down to at most 455, counting the places that this takes. -/
def scaleDown : Nat → Nat → Nat → Nat × Nat
  | 0, delta, places => (delta, places)
  | bound + 1, delta, places =>
    if 455 < delta then scaleDown bound (delta / 35) (places + 36) else (delta, places)

/-- The bias after a difference has been written. -/
def adapt (delta handled : Nat) (first : Bool) : Nat :=
  let damped := if first then delta / 700 else delta / 2
  let (rest, places) := scaleDown damped (damped + damped / handled) 0
  places + 36 * rest / (rest + 38)

/-- The state between differences. -/
structure State where
  delta : Nat
  bias : Nat
  handled : Nat
  first : Bool
  written : Text

/-- Go through the text once for the code point `n`. -/
def pass (n : Nat) (s : State) (text : List Nat) : State :=
  text.foldl (fun s c =>
    if c < n then { s with delta := s.delta + 1 }
    else if c = n then
      ⟨0, adapt s.delta (s.handled + 1) s.first, s.handled + 1, false,
        s.written ++ digits s.bias (s.delta + 1) 36 s.delta⟩
    else s) s

/-- Write the code points that are at least `n`, in ascending order. -/
def passes (text : List Nat) : Nat → Nat → State → Text
  | 0, _, s => s.written
  | bound + 1, n, s =>
    match (text.filter (n ≤ ·)).min? with
    | none => s.written
    | some m =>
      let moved := { s with delta := s.delta + (m - n) * (s.handled + 1) }
      let after := pass m moved text
      passes text bound (m + 1) { after with delta := after.delta + 1 }

def encode (t : Text) : Text :=
  let basic := t.filter CodePoint.isAscii
  let start := if basic = [] then [] else basic ++ [.scalar '-']
  start ++ passes (t.map CodePoint.val) t.length 0x80 ⟨0, 72, basic.length, true, []⟩

/-! ### Reading -/

/-- The value of a digit, whose letter may be a capital. -/
def digitValue? (c : CodePoint) : Option Nat :=
  let n := c.val
  if 97 ≤ n ∧ n ≤ 122 then some (n - 97)
  else if 65 ≤ n ∧ n ≤ 90 then some (n - 65)
  else if 48 ≤ n ∧ n ≤ 57 then some (n - 22)
  else none

/-- The difference at the front of some digits, and the digits after it. `sum` is what the digits
before gave. -/
def difference? (bias place weight sum : Nat) : Text → Option (Nat × Text)
  | [] => none
  | c :: rest =>
    match digitValue? c with
    | none => none
    | some d =>
      let t := threshold place bias
      let total := sum + d * weight
      if d < t then some (total, rest)
      else difference? bias (place + 36) (weight * (36 - t)) total rest

/-- The state between insertions: the last code point inserted, the first place where it may come
again, and the text so far. -/
structure Insertion where
  number : Nat
  place : Nat
  bias : Nat
  first : Bool
  text : Text

/-- Insert the code points of all differences. A number too large for a code point becomes that of a
question mark, and digits that are no difference end the reading; the answer tells whether neither
happened. The bound is at least the number of digits. -/
def insertAll : Nat → Insertion → Text → Text × Bool
  | _, s, [] => (s.text, true)
  | 0, s, _ => (s.text, false)
  | bound + 1, s, digits =>
    match difference? s.bias 36 1 0 digits with
    | none => (s.text, false)
    | some (delta, rest) =>
      let room := s.text.length + 1
      let sum := s.place + delta
      let next := s.number + sum / room
      let (number, fits) := if 0x10FFFF < next then (63, false) else (next, true)
      let place := sum % room
      let text := s.text.take place ++ CodePoint.ofNat number :: s.text.drop place
      let (whole, good) :=
        insertAll bound ⟨number, place + 1, adapt delta room s.first, false, text⟩ rest
      (whole, fits && good)

/-- The text of some ASCII characters and the digits after them, and whether the digits are in
order. -/
def insert (basic digits : Text) : Text × Bool :=
  insertAll digits.length ⟨0x80, 0, 72, true, basic⟩ digits

/-- What stands before the last hyphen of a text, if there is one, and after it. -/
def splitAtHyphen (t : Text) : Text × Text :=
  let (after, before) := t.reverse.span (· ≠ .scalar '-')
  ((before.drop 1).reverse, after.reverse)

/-- The text that an ASCII text stands for. -/
def decode? (t : Text) : Option Text :=
  let (basic, digits) := splitAtHyphen t
  match insert basic digits with
  | (whole, true) => some whole
  | (_, false) => none

end DemurrageToken.Punycode
