import DemurrageToken.Deflate.PrefixCode
/-!
Blocks of compressed data. A block stores bytes as they are, or holds symbols in prefix codes: a
symbol is a byte, the end of the block, or a length, after which a distance tells how far back the
bytes of that length stand. The codes are fixed or come with the block.
-/
namespace DemurrageToken.Deflate

open Reading

/-- Copy so many of the bytes made so far to their end, from a distance on. -/
def copyBack (distance : Nat) : Nat → Array UInt8 → Array UInt8
  | 0, output => output
  | n + 1, output => copyBack distance n (output.push (output.getD (output.size - distance) 0))

/-- The least length of a symbol, and how many bits tell how much is added. -/
def lengthBase? (symbol : Nat) : Option (Nat × Nat) :=
  if symbol < 8 then some (symbol + 3, 0)
  else if symbol < 28 then
    let extra := symbol / 4 - 1
    some ((4 + symbol % 4) * Nat.pow 2 extra + 3, extra)
  else if symbol = 28 then some (258, 0)
  else none

/-- The least distance of a symbol, and how many bits tell how much is added. -/
def distanceBase? (symbol : Nat) : Option (Nat × Nat) :=
  if symbol < 4 then some (symbol + 1, 0)
  else if symbol < 30 then
    let extra := symbol / 2 - 1
    some ((2 + symbol % 2) * Nat.pow 2 extra + 1, extra)
  else none

/-- The symbol that ends a block. -/
def endOfBlock : Nat := 256

/-- Read symbols up to the end of the block, at most so many. A symbol has at least one bit. -/
def readSymbols (literals distances : PrefixCode) : Nat → Reading Unit
  | 0 => throw .unfinished
  | bound + 1 => do
    match ← literals.read with
    | none => fail .literal
    | some symbol =>
      if symbol = endOfBlock then return ()
      else if symbol < endOfBlock then
        write (UInt8.ofNat symbol)
        readSymbols literals distances bound
      else
        match lengthBase? (symbol - (endOfBlock + 1)) with
        | none => fail .literal
        | some (leastLength, extra) =>
          let length := leastLength + (← number extra)
          match (← distances.read).bind distanceBase? with
          | none => fail .distance
          | some (leastDistance, extra) =>
            let distance := leastDistance + (← number extra)
            let s ← get
            if s.output.size < distance then fail .tooFarBack
            set { s with output := copyBack distance length s.output }
            readSymbols literals distances bound

/-- The lengths of the fixed code for bytes and lengths. -/
def fixedLengths : List Nat :=
  List.replicate 144 8 ++ List.replicate 112 9 ++ List.replicate 24 7 ++ List.replicate 8 8

def fixedLiterals : PrefixCode := .ofLengths fixedLengths

def fixedDistances : PrefixCode := .ofLengths (List.replicate 32 5)

/-- The order in which a block gives the lengths of the code for lengths. -/
def lengthOrder : List Nat := [16, 17, 18, 0, 8, 7, 9, 6, 10, 5, 11, 4, 12, 3, 13, 2, 14, 1, 15]

/-- Read lengths of code words up to so many, some of which are there, the last one first. An empty
code stands for lengths of zero, in one bit each. -/
def readLengths (code : PrefixCode) (total : Nat) : Nat → List Nat → Reading (List Nat)
  | 0, lengths => return lengths.reverse
  | bound + 1, lengths => do
    if total ≤ lengths.length then return lengths.reverse
    let symbol := (← code.read).getD 0
    let (length, count) ←
      if symbol < 16 then pure (symbol, 1)
      else if symbol = 16 then do
        let count ← number 2
        match lengths with
        | [] => fail .lengthRepeat
        | last :: _ => pure (last, count + 3)
      else if symbol = 17 then do pure (0, (← number 3) + 3)
      else do pure (0, (← number 7) + 11)
    if total < lengths.length + count then fail .lengthRepeat
    readLengths code total bound (List.replicate count length ++ lengths)

/-- Read the codes that come with a block: for bytes and lengths, and for distances. -/
def readCodes : Reading (PrefixCode × PrefixCode) := do
  let literalCount := (← number 5) + 257
  let distanceCount := (← number 5) + 1
  let lengthCount := (← number 4) + 4
  if 286 < literalCount ∨ 30 < distanceCount then fail .tooManySymbols
  let given ← (lengthOrder.take lengthCount).mapM fun symbol => do return (symbol, ← number 3)
  let lengthCode := PrefixCode.ofLengths ((List.range 19).map fun n => (given.lookup n).getD 0)
  if !lengthCode.isEmpty && !lengthCode.isComplete then fail .codeLengthCode
  let total := literalCount + distanceCount
  let lengths ← readLengths lengthCode total total []
  if lengths.getD endOfBlock 0 = 0 then fail .missingEnd
  let literals := PrefixCode.ofLengths (lengths.take literalCount)
  if !literals.isUsable then fail .literalCode
  let distances := PrefixCode.ofLengths (lengths.drop literalCount)
  if !distances.isUsable then fail .distanceCode
  return (literals, distances)

/-- Copy so many bytes as they are, or those that there are. -/
def readStored : Nat → Reading Unit
  | 0 => return ()
  | n + 1 => do
    write (UInt8.ofNat (← number 8))
    readStored n

/-- Read a block. Tells whether it is the last one. -/
def readBlock : Reading Bool := do
  let isLast := (← number 1) == 1
  match ← number 2 with
  | 0 =>
    alignToByte
    let length ← number 16
    let complement ← number 16
    if length + complement ≠ 0xFFFF then fail .storedLengths
    readStored length
  | 1 => readSymbols fixedLiterals fixedDistances ((← get).bits.length + 1)
  | 2 =>
    let (literals, distances) ← readCodes
    readSymbols literals distances ((← get).bits.length + 1)
  | _ => fail .blockType
  return isLast

/-- Read blocks up to the last one, at most so many. -/
def readBlocksWithin : Nat → Reading Unit
  | 0 => throw .unfinished
  | bound + 1 => do
    if !(← readBlock) then readBlocksWithin bound

/-- Read blocks up to the last one. -/
def readBlocks : Reading Unit := do readBlocksWithin ((← get).bits.length + 1)

end DemurrageToken.Deflate
