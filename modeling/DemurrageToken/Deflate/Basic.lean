import DemurrageToken.Text.Utf8
/-!
Compressed data as a stream of bits. The bits of a byte come lowest first, and so do the bits of a
number. Data may stop anywhere: what it says up to there still counts.
-/
namespace DemurrageToken.Deflate

abbrev Bits := List Bool

namespace Bits

def ofByte (b : UInt8) : Bits := (List.range 8).map b.toNat.testBit

def ofBytes (bytes : Bytes) : Bits := bytes.flatMap ofByte

/-- The number that bits show, the lowest first. -/
def toNat : Bits → Nat
  | [] => 0
  | b :: rest => b.toNat + 2 * toNat rest

end Bits

/-- What is wrong with compressed data. -/
inductive Fault where
  | header
  | method
  | windowSize
  | headerFlags
  | headerSum
  | dictionary
  | blockType
  | storedLengths
  | tooManySymbols
  | codeLengthCode
  | lengthRepeat
  | missingEnd
  | literalCode
  | distanceCode
  | literal
  | distance
  | tooFarBack
  | dataSum
  | dataLength
deriving DecidableEq

def Fault.reason : Fault → Text
  | header => "incorrect header check"
  | method => "unknown compression method"
  | windowSize => "invalid window size"
  | headerFlags => "unknown header flags set"
  | headerSum => "header crc mismatch"
  | dictionary => "need dictionary"
  | blockType => "invalid block type"
  | storedLengths => "invalid stored block lengths"
  | tooManySymbols => "too many length or distance symbols"
  | codeLengthCode => "invalid code lengths set"
  | lengthRepeat => "invalid bit length repeat"
  | missingEnd => "invalid code -- missing end-of-block"
  | literalCode => "invalid literal/lengths set"
  | distanceCode => "invalid distances set"
  | literal => "invalid literal/length code"
  | distance => "invalid distance code"
  | tooFarBack => "invalid distance too far back"
  | dataSum => "incorrect data check"
  | dataLength => "incorrect length check"

def Fault.message (fault : Fault) : Text :=
  if fault = dictionary then "Error 2 while decompressing data"
  else "Error -3 while decompressing data: " ++ fault.reason

/-- Why reading stops before the end of the data is reached. -/
inductive Stop where
  /-- The data ends too early. -/
  | unfinished
  | fault (fault : Fault)

/-- The bits that are left, and the bytes made so far. -/
structure State where
  bits : Bits
  output : Array UInt8

abbrev Reading := ExceptT Stop (StateM State)

namespace Reading

def fail {α : Type} (fault : Fault) : Reading α := throw (.fault fault)

/-- Take so many bits. -/
def bits (width : Nat) : Reading Bits := do
  let s ← get
  let taken := s.bits.take width
  if taken.length < width then throw .unfinished
  set { s with bits := s.bits.drop width }
  return taken

/-- Take a number of so many bits. -/
def number (width : Nat) : Reading Nat := do return (← bits width).toNat

/-- Drop what is left of a byte that has been begun. -/
def alignToByte : Reading Unit :=
  modify fun s => { s with bits := s.bits.drop (s.bits.length % 8) }

def write (b : UInt8) : Reading Unit := modify fun s => { s with output := s.output.push b }

end Reading

end DemurrageToken.Deflate
