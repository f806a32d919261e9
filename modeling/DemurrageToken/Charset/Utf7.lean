import DemurrageToken.Charset.Piece
import DemurrageToken.Text.Wide
/-!
UTF-7. ASCII characters stand for themselves, but a plus sign begins a section in which 16-bit units
are written in base64, most significant bit first. A hyphen ends a section and is dropped; any other
byte outside base64 ends it too and stands for itself.
-/
namespace DemurrageToken.Charset.Utf7

/-- The value of a byte in base64. -/
def value? (b : UInt8) : Option Nat :=
  let n := b.toNat
  if 65 ≤ n ∧ n ≤ 90 then some (n - 65)
  else if 97 ≤ n ∧ n ≤ 122 then some (n - 71)
  else if 48 ≤ n ∧ n ≤ 57 then some (n + 4)
  else if n = 43 then some 62
  else if n = 47 then some 63
  else none

/-- The state inside a section: the bits that are left over, their number, and a high surrogate that
waits for a low one. -/
structure Section where
  bits : Nat
  count : Nat
  waiting : Option Nat

def Section.start : Section := ⟨0, 0, none⟩

/-- Take a unit. The text is what is complete by now. -/
def Section.take (s : Section) (unit : Nat) : Text × Section :=
  let alone : Text := (s.waiting.map CodePoint.ofNat).toList
  match s.waiting with
  | some high =>
    if Wide.isLowSurrogate unit then ([Wide.joinSurrogates high unit], { s with waiting := none })
    else if Wide.isHighSurrogate unit then (alone, { s with waiting := some unit })
    else (alone ++ [CodePoint.ofNat unit], { s with waiting := none })
  | none =>
    if Wide.isHighSurrogate unit then ([], { s with waiting := some unit })
    else ([CodePoint.ofNat unit], s)

/-- Take the six bits of a byte. -/
def Section.push (s : Section) (value : Nat) : Text × Section :=
  let bits := s.bits * 64 + value
  let count := s.count + 6
  if 16 ≤ count then
    let left := Nat.pow 2 (count - 16)
    { s with bits := bits % left, count := count - 16 }.take (bits / left)
  else ([], { s with bits, count })

/-- Whether a section may end here: what is left over is no byte of base64, and has no bit set. -/
def Section.mayEnd (s : Section) : Bool := s.count < 6 && s.bits = 0

/-- A step outside sections over a byte that is no plus sign. -/
def plainStep (b : UInt8) : Step :=
  if b.toNat < 0x80 then .byte b.toNat else .broken 1

/-- A step, in a section or outside. -/
def step (state : Option Section) (b : UInt8) (rest : Bytes) : Step × Option Section :=
  match state with
  | some s =>
    match value? b with
    | some value =>
      let (t, next) := s.push value
      (.text t 1, some next)
    | none =>
      if !s.mayEnd then (.broken 1, none)
      else
        let alone : Text := if b.toNat < 0x80 then (s.waiting.map CodePoint.ofNat).toList else []
        if b = 0x2D then (.text alone 1, none)
        else
          match plainStep b with
          | .text t width => (.text (alone ++ t) width, none)
          | other => (other, none)
  | none =>
    if b = 0x2B then
      match rest with
      | 0x2D :: _ => (.text [.scalar '+'] 2, none)
      | next :: _ => if (value? next).isSome then (.text [] 1, some .start) else (.broken 2, none)
      | [] => (.text [] 1, some .start)
    else (plainStep b, none)

/-- What is left at the end. A section that may not end is broken there. -/
def finish : Option Section → List Piece
  | some s => if s.mayEnd && s.waiting.isNone then [] else [.broken]
  | none => []

def pieces (bytes : Bytes) : List Piece := piecesAfter step finish none 0 bytes

end DemurrageToken.Charset.Utf7
