import DemurrageToken.Charset.Piece
import DemurrageToken.Percent
import DemurrageToken.Text.Name
/-!
Bytes that stand for the code points of their numbers, except that a backslash begins an escape.
-/
namespace DemurrageToken.Charset.Escapes

/-- The number of hexadecimal digits, and how many bytes of them there are. -/
def hexDigits (value : Nat) : Nat → Bytes → Nat × Nat
  | bound + 1, b :: rest =>
    match Percent.hexDigit? (CodePoint.ofNat b.toNat) with
    | some d =>
      let (whole, length) := hexDigits (value * 16 + d) bound rest
      (whole, length + 1)
    | none => (value, 0)
  | _, _ => (value, 0)

/-- The greatest number of a code point. -/
def greatest : Nat := 0x10FFFF

/-- A step over an escape of a backslash, a letter and so many hexadecimal digits. -/
def hexStep (digits : Nat) (rest : Bytes) : Step :=
  let (value, length) := hexDigits 0 digits rest
  if length < digits then if length = rest.length then .incomplete else .broken (2 + length)
  else if greatest < value then .broken (2 + length)
  else .text [CodePoint.ofNat value] (2 + length)

/-- The number of octal digits, and how many bytes of them there are. -/
def octalDigits (value : Nat) : Nat → Bytes → Nat × Nat
  | bound + 1, b :: rest =>
    if 48 ≤ b.toNat ∧ b.toNat ≤ 55 then
      let (whole, length) := octalDigits (value * 8 + (b.toNat - 48)) bound rest
      (whole, length + 1)
    else (value, 0)
  | _, _ => (value, 0)

/-- The control characters that a letter after a backslash stands for. -/
def controls : List (Char × Nat) :=
  [('a', 7), ('b', 8), ('t', 9), ('n', 10), ('v', 11), ('f', 12), ('r', 13)]

/-- A step over the name of a character in braces. -/
def nameStep : Bytes → Step
  | [] => .incomplete
  | b :: rest =>
    if b ≠ 0x7B then .broken 2
    else
      let name := rest.takeWhile (· ≠ 0x7D)
      if name.length = rest.length then .incomplete
      else if name = [] then .broken 3
      else
        match CodePoint.ofName? (name.map fun b => CodePoint.ofNat b.toNat) with
        | some c => .text [c] (4 + name.length)
        | none => .broken (4 + name.length)

/-- A step where a backslash can begin any escape. A backslash before another character stands for
itself, and one before the end of a line drops it. -/
def step (b : UInt8) (rest : Bytes) : Step :=
  if b ≠ 0x5C then .byte b.toNat
  else
    match rest with
    | [] => .incomplete
    | c :: others =>
      let char := Char.ofNat c.toNat
      if char = '\n' then .text [] 2
      else if char = '\\' ∨ char = '\'' ∨ char = '"' then .text [.scalar char] 2
      else
        match controls.lookup char with
        | some n => .text [CodePoint.ofNat n] 2
        | none =>
          if char = 'x' then hexStep 2 others
          else if char = 'u' then hexStep 4 others
          else if char = 'U' then hexStep 8 others
          else if char = 'N' then nameStep others
          else
            let (value, length) := octalDigits 0 3 rest
            if 0 < length then .text [CodePoint.ofNat value] (1 + length)
            else .text [.scalar '\\', CodePoint.ofNat c.toNat] 2

/-- A step where only escapes of hexadecimal digits count. -/
def rawStep (b : UInt8) (rest : Bytes) : Step :=
  if b ≠ 0x5C then .byte b.toNat
  else
    match rest with
    | [] => .byte b.toNat
    | c :: others =>
      if c = 0x75 then hexStep 4 others
      else if c = 0x55 then hexStep 8 others
      else .text [.scalar '\\', CodePoint.ofNat c.toNat] 2

end DemurrageToken.Charset.Escapes
