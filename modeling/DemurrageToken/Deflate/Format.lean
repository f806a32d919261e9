import DemurrageToken.Deflate.Block
import DemurrageToken.Deflate.Checksum
/-!
Formats of compressed data: blocks on their own, or between a header and a checksum. What follows
the end of the data is not looked at.
-/
namespace DemurrageToken.Deflate

open Reading

inductive Format where
  | gzip
  | zlib
  | raw
deriving DecidableEq

/-- Drop a text in a header, which ends with a byte of zero. -/
def dropHeaderText : Nat → Reading Unit
  | 0 => throw .unfinished
  | bound + 1 => do
    if (← number 8) ≠ 0 then dropHeaderText bound

/-- Take a number of four bytes, the highest first. -/
def numberHighFirst : Reading Nat := do
  let high ← (List.range 4).mapM fun _ => number 8
  return high.foldl (fun n b => n * 256 + b) 0

/-- Read the header of `gzip` data, which begin the given bytes. -/
def readGzipHeader (bytes : Bytes) : Reading Unit := do
  if (← number 16) ≠ 0x8B1F then fail .header
  let flags ← number 16
  if flags % 256 ≠ 8 then fail .method
  if flags.testBit 13 || flags.testBit 14 || flags.testBit 15 then fail .headerFlags
  let _ ← bits 48
  if flags.testBit 10 then
    let length ← number 16
    let _ ← bits (8 * length)
  if flags.testBit 11 then dropHeaderText (bytes.length + 1)
  if flags.testBit 12 then dropHeaderText (bytes.length + 1)
  if flags.testBit 9 then
    let length := bytes.length - (← get).bits.length / 8
    if (← number 16) ≠ cyclicSum (bytes.take length) % 65536 then fail .headerSum

/-- Read the header of `zlib` data. -/
def readZlibHeader : Reading Unit := do
  let method ← number 8
  let flags ← number 8
  if (method * 256 + flags) % 31 ≠ 0 then fail .header
  if method % 16 ≠ 8 then fail .method
  if 7 < method / 16 then fail .windowSize
  if flags.testBit 5 then
    let _ ← bits 32
    fail .dictionary

/-- Read the whole of some data. -/
def Format.read (format : Format) (bytes : Bytes) : Reading Unit :=
  match format with
  | raw => readBlocks
  | gzip => do
    readGzipHeader bytes
    readBlocks
    alignToByte
    let sum ← number 32
    let output := (← get).output
    if sum ≠ cyclicSum output.toList then fail .dataSum
    if (← number 32) ≠ output.size % 0x100000000 then fail .dataLength
  | zlib => do
    readZlibHeader
    readBlocks
    alignToByte
    if (← numberHighFirst) ≠ pairSum (← get).output.toList then fail .dataSum

/-- The bytes that some data hold, as far as they go. -/
def Format.decompress (format : Format) (bytes : Bytes) : Except Fault Bytes :=
  match ((format.read bytes).run ⟨Bits.ofBytes bytes, #[]⟩).run with
  | (.error (.fault fault), _) => .error fault
  | (_, s) => .ok s.output.toList

end DemurrageToken.Deflate
