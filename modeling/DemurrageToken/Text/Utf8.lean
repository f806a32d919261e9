import DemurrageToken.Text.Basic
/-!
UTF-8. Bytes fall in exactly one way into characters and maximal ill-formed runs; strict reading
stops at the first ill-formed run and says where it is, lossy reading puts U+FFFD for each.
-/
namespace DemurrageToken

abbrev Bytes := List UInt8

namespace Utf8

/-- The bytes of a code point. Surrogates get the three bytes that their number would have. -/
def encodeCodePoint (c : CodePoint) : Bytes :=
  let n := c.val
  if n < 0x80 then [UInt8.ofNat n]
  else if n < 0x800 then [UInt8.ofNat (0xC0 + n / 0x40), UInt8.ofNat (0x80 + n % 0x40)]
  else if n < 0x10000 then
    [UInt8.ofNat (0xE0 + n / 0x1000), UInt8.ofNat (0x80 + n / 0x40 % 0x40),
      UInt8.ofNat (0x80 + n % 0x40)]
  else
    [UInt8.ofNat (0xF0 + n / 0x40000), UInt8.ofNat (0x80 + n / 0x1000 % 0x40),
      UInt8.ofNat (0x80 + n / 0x40 % 0x40), UInt8.ofNat (0x80 + n % 0x40)]

/-- The first maximal run of surrogates in a text, which has no UTF-8: the position of the run,
its first code point and its length. -/
structure SurrogateRun where
  position : Nat
  first : CodePoint
  length : Nat
deriving DecidableEq

/-- The first maximal run of surrogates, positions counted from the given one. -/
def surrogateRun? (position : Nat) : Text → Option SurrogateRun
  | [] => none
  | c :: rest =>
    if c.isSurrogate then some ⟨position, c, (c :: rest).takeWhile CodePoint.isSurrogate |>.length⟩
    else surrogateRun? (position + 1) rest

/-- The UTF-8 of a text, or the first run that has none. -/
def encode (t : Text) : Except SurrogateRun Bytes :=
  match surrogateRun? 0 t with
  | some run => .error run
  | none => .ok (t.flatMap encodeCodePoint)

def SurrogateRun.message (r : SurrogateRun) : Text :=
  if r.length = 1 then
    "'utf-8' codec can't encode character '\\u" ++ Text.hex 4 r.first.val ++ "' in position "
      ++ Text.ofNat r.position ++ ": surrogates not allowed"
  else
    "'utf-8' codec can't encode characters in position " ++ Text.ofNat r.position ++ "-"
      ++ Text.ofNat (r.position + r.length - 1) ++ ": surrogates not allowed"

/-- Why bytes are not UTF-8. -/
inductive Reason where
  | invalidStart
  | invalidContinuation
  | unexpectedEnd
deriving DecidableEq

def Reason.message : Reason → Text
  | .invalidStart => "invalid start byte"
  | .invalidContinuation => "invalid continuation byte"
  | .unexpectedEnd => "unexpected end of data"

/-- One part of a byte sequence: a character with the number of its bytes, or bytes that begin no
well-formed sequence any longer one of which could still be read. -/
inductive Segment where
  | character (c : CodePoint) (width : Nat)
  | illFormed (reason : Reason) (bytes : Bytes)
deriving DecidableEq

def Segment.width : Segment → Nat
  | character _ w => w
  | illFormed _ bytes => bytes.length

/-- What a lead byte announces: how many bytes follow, the bounds of the first of them, and the
bits that the lead byte itself gives. -/
structure Lead where
  owed : Nat
  low : Nat
  high : Nat
  bits : Nat

/-- The announcement of a lead byte, if it is one. The bounds rule out overlong forms, numbers
above U+10FFFF and, unless they are let through, surrogates. -/
def lead? (surrogates : Bool) (b : UInt8) : Option Lead :=
  let n := b.toNat
  if n < 0x80 then some ⟨0, 0x80, 0xBF, n⟩
  else if n < 0xC2 then none
  else if n < 0xE0 then some ⟨1, 0x80, 0xBF, n - 0xC0⟩
  else if n < 0xF0 then
    some ⟨2, if n = 0xE0 then 0xA0 else 0x80,
      if n = 0xED && !surrogates then 0x9F else 0xBF, n - 0xE0⟩
  else if n < 0xF5 then
    some ⟨3, if n = 0xF0 then 0x90 else 0x80, if n = 0xF4 then 0x8F else 0xBF, n - 0xF0⟩
  else none

/-- Read the bytes that are owed. The bytes taken so far come last first. -/
def follow (taken : Bytes) (bits low high : Nat) : Nat → Bytes → Segment
  | 0, _ => .character (CodePoint.ofNat bits) taken.length
  | _ + 1, [] => .illFormed .unexpectedEnd taken.reverse
  | owed + 1, b :: rest =>
    if low ≤ b.toNat ∧ b.toNat ≤ high then
      follow (b :: taken) (bits * 0x40 + (b.toNat - 0x80)) 0x80 0xBF owed rest
    else .illFormed .invalidContinuation taken.reverse

/-- The first segment of the bytes `b :: rest`. -/
def segment (surrogates : Bool) (b : UInt8) (rest : Bytes) : Segment :=
  match lead? surrogates b with
  | none => .illFormed .invalidStart [b]
  | some l => follow [b] l.bits l.low l.high l.owed rest

/-- The segments of a byte sequence, after some bytes that belong to a segment already given. -/
def segmentsAfter (surrogates : Bool) : Nat → Bytes → List Segment
  | _, [] => []
  | skip + 1, _ :: rest => segmentsAfter surrogates skip rest
  | 0, b :: rest =>
    let first := segment surrogates b rest
    first :: segmentsAfter surrogates (first.width - 1) rest

def segments (surrogates : Bool) (bytes : Bytes) : List Segment := segmentsAfter surrogates 0 bytes

/-- The first ill-formed bytes of a byte sequence, where they begin and what is wrong. -/
structure IllFormed where
  position : Nat
  bytes : Bytes
  reason : Reason
deriving DecidableEq

/-- The characters of the segments, unless one of them is ill-formed. -/
def assemble (position : Nat) : List Segment → Except IllFormed Text
  | [] => .ok []
  | .character c w :: rest => (assemble (position + w) rest).map (c :: ·)
  | .illFormed reason bytes :: _ => .error ⟨position, bytes, reason⟩

/-- Strict reading. -/
def decode (bytes : Bytes) : Except IllFormed Text := assemble 0 (segments false bytes)

/-- Reading that lets encoded surrogates through. -/
def decodeWithSurrogates (bytes : Bytes) : Option Text :=
  (assemble 0 (segments true bytes)).toOption

/-- Reading that puts U+FFFD for each maximal ill-formed run. -/
def decodeLossy (bytes : Bytes) : Text :=
  (segments false bytes).map fun
    | .character c _ => c
    | .illFormed _ _ => .scalar '\ufffd'

def IllFormed.message (f : IllFormed) : Text :=
  (match f.bytes with
    | [b] =>
      "'utf-8' codec can't decode byte 0x" ++ Text.hex 2 b.toNat ++ " in position "
        ++ Text.ofNat f.position
    | bytes =>
      "'utf-8' codec can't decode bytes in position " ++ Text.ofNat f.position ++ "-"
        ++ Text.ofNat (f.position + bytes.length - 1))
    ++ ": " ++ f.reason.message

end Utf8

end DemurrageToken
