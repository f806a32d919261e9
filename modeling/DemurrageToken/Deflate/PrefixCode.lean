import DemurrageToken.Deflate.Basic
/-!
Prefix codes that are given by the lengths of their code words. Code words of one length are
neighbours in the order of their symbols, and shorter ones come first.
-/
namespace DemurrageToken.Deflate

structure PrefixCode where
  /-- How many code words there are of each length from one to the greatest. -/
  counts : List Nat
  /-- The symbols in the order of their code words. -/
  symbols : Array Nat

namespace PrefixCode

/-- The code of the symbols from zero on whose code words have the given lengths. A symbol of length
zero has no code word. -/
def ofLengths (lengths : List Nat) : PrefixCode :=
  let widths := (List.range (lengths.foldl max 0)).map (· + 1)
  let symbols := widths.flatMap fun width =>
    lengths.zipIdx.filterMap fun (length, symbol) => if length = width then some symbol else none
  ⟨widths.map lengths.count, symbols.toArray⟩

/-- How many further code words of the greatest length there is room for, unless there are too many
code words already. -/
def room? (code : PrefixCode) : Option Nat :=
  code.counts.foldlM (fun room count =>
    if count ≤ 2 * room then some (2 * room - count) else none) 1

def isEmpty (code : PrefixCode) : Bool := code.symbols.isEmpty

/-- Whether every sequence of bits begins with a code word. -/
def isComplete (code : PrefixCode) : Bool := code.room? = some 0

/-- Whether the code is complete, or has one code word of one bit or none at all. -/
def isUsable (code : PrefixCode) : Bool :=
  code.isComplete || (code.counts.length ≤ 1 && code.room?.isSome)

/-- The symbol at the front of some bits and the bits after it, given the counts of the lengths that
are still possible. `first` is the least code word of the present length, `index` the place of its
symbol, and `value` what has been read, both without the next bit. No symbol comes from bits that no
code word begins with. -/
def walk (code : PrefixCode) (index first value : Nat) :
    List Nat → Bits → Option (Option Nat × Bits)
  | _, [] => none
  | [], _ :: bits => some (none, bits)
  | count :: longer, b :: bits =>
    let word := value + b.toNat
    if word < first + count then some (code.symbols[index + (word - first)]?, bits)
    else if longer = [] then some (none, bits)
    else walk code (index + count) (2 * (first + count)) (2 * word) longer bits

/-- Take the bits of a symbol, if a code word is at the front. -/
def read (code : PrefixCode) : Reading (Option Nat) := do
  let s ← get
  match code.walk 0 0 0 code.counts s.bits with
  | none => throw .unfinished
  | some (symbol?, rest) =>
    set { s with bits := rest }
    return symbol?

end PrefixCode

end DemurrageToken.Deflate
