import DemurrageToken.Text.Utf8
/-!
Base64 with the standard alphabet. Writing pads the last group with `=`. Reading is lenient:
characters outside the alphabet are skipped, and padding that completes a group ends the data.
-/
namespace DemurrageToken.Base64

/-- Six bits. -/
abbrev Sextet := Fin 64

/-- The character of a sextet. -/
def digit (s : Sextet) : CodePoint :=
  let n := s.val
  if n < 26 then .scalar (Char.ofNat (65 + n))
  else if n < 52 then .scalar (Char.ofNat (71 + n))
  else if n < 62 then .scalar (Char.ofNat (n - 4))
  else if n = 62 then .scalar '+'
  else .scalar '/'

/-- The sextet of a character of the alphabet. -/
def sextet? (c : CodePoint) : Option Sextet :=
  let n := c.val
  if 65 ≤ n ∧ n ≤ 90 then some (Fin.ofNat 64 (n - 65))
  else if 97 ≤ n ∧ n ≤ 122 then some (Fin.ofNat 64 (n - 71))
  else if 48 ≤ n ∧ n ≤ 57 then some (Fin.ofNat 64 (n + 4))
  else if n = 43 then some 62
  else if n = 47 then some 63
  else none

/-- Groups of three bytes become four characters; two bytes become three and one `=`, one byte
becomes two and two `=`. -/
def encode : Bytes → Text
  | [] => []
  | [a] =>
    [digit (Fin.ofNat 64 (a.toNat / 4)), digit (Fin.ofNat 64 (a.toNat % 4 * 16)), '=', '=']
  | [a, b] =>
    [digit (Fin.ofNat 64 (a.toNat / 4)),
      digit (Fin.ofNat 64 (a.toNat % 4 * 16 + b.toNat / 16)),
      digit (Fin.ofNat 64 (b.toNat % 16 * 4)), '=']
  | a :: b :: c :: rest =>
    digit (Fin.ofNat 64 (a.toNat / 4)) ::
      digit (Fin.ofNat 64 (a.toNat % 4 * 16 + b.toNat / 16)) ::
      digit (Fin.ofNat 64 (b.toNat % 16 * 4 + c.toNat / 64)) ::
      digit (Fin.ofNat 64 (c.toNat % 64)) :: encode rest

/-- The data of a text: its sextets, and whether padding completed the last group of four. The
group begins with `filled` sextets, followed by `pads` padding characters that count. Padding
counts from the second sextet of a group on; a sextet takes the count back. -/
def gather (filled pads : Nat) : Text → List Sextet × Bool
  | [] => ([], false)
  | c :: rest =>
    if c = .scalar '=' then
      if 2 ≤ filled then
        if 4 ≤ filled + (pads + 1) then ([], true) else gather filled (pads + 1) rest
      else gather filled pads rest
    else
      match sextet? c with
      | none => gather filled pads rest
      | some s =>
        let (data, closed) := gather ((filled + 1) % 4) 0 rest
        (s :: data, closed)

/-- The bytes of sextets. Bits that fill no byte are dropped. -/
def unpack : List Sextet → Bytes
  | a :: b :: c :: d :: rest =>
    UInt8.ofNat (a.val * 4 + b.val / 16) :: UInt8.ofNat (b.val % 16 * 16 + c.val / 4) ::
      UInt8.ofNat (c.val % 4 * 64 + d.val) :: unpack rest
  | [a, b, c] => [UInt8.ofNat (a.val * 4 + b.val / 16), UInt8.ofNat (b.val % 16 * 16 + c.val / 4)]
  | [a, b] => [UInt8.ofNat (a.val * 4 + b.val / 16)]
  | _ => []

inductive Fault where
  /-- One sextet is left over, of the given number in all. -/
  | leftover (count : Nat)
  /-- Two or three sextets are left over, and no padding completes them. -/
  | padding
deriving DecidableEq

def Fault.message : Fault → Text
  | leftover n =>
    "Invalid base64-encoded string: number of data characters (" ++ Text.ofNat n
      ++ ") cannot be 1 more than a multiple of 4"
  | padding => "Incorrect padding"

/-- Lenient reading. -/
def decode (t : Text) : Except Fault Bytes :=
  let (data, closed) := gather 0 0 t
  if closed || data.length % 4 = 0 then .ok (unpack data)
  else if data.length % 4 = 1 then .error (.leftover data.length)
  else .error .padding

end DemurrageToken.Base64
