import DemurrageToken.Text.Utf8
/-!
Checksums of bytes: the remainder by a polynomial over two elements, and the pair of sums.
-/
namespace DemurrageToken.Deflate

/-- The polynomial of the cyclic checksum, the lowest power in the highest bit. -/
def cyclicPolynomial : UInt32 := 0xEDB88320

/-- The remainder after so many more bits of a byte that has been added to it. -/
def cyclicShift : Nat → UInt32 → UInt32
  | 0, r => r
  | n + 1, r => cyclicShift n (if r &&& 1 = 1 then (r >>> 1) ^^^ cyclicPolynomial else r >>> 1)

/-- The cyclic checksum of 32 bits. -/
def cyclicSum (bytes : Bytes) : Nat :=
  (bytes.foldl (fun r b => cyclicShift 8 (r ^^^ b.toUInt32)) 0xFFFFFFFF ^^^ 0xFFFFFFFF).toNat

/-- The greatest prime below 65536. -/
def sumModulus : Nat := 65521

/-- The sum of the bytes, and before it the sum of the sums, 16 bits each. -/
def pairSum (bytes : Bytes) : Nat :=
  let (sum, sums) := bytes.foldl (fun (sum, sums) b =>
    let sum := (sum + b.toNat) % sumModulus
    (sum, (sums + sum) % sumModulus)) (1, 0)
  sums * 65536 + sum

end DemurrageToken.Deflate
