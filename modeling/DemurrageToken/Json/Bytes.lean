import DemurrageToken.Json.Reader
/-!
JSON from bytes. A byte order mark tells the encoding, or else the zero bytes among the first
four, since a JSON text begins with two ASCII characters.
-/
namespace DemurrageToken.Json

inductive Encoding where
  | utf8
  | utf16 (order : Wide.Order)
  | utf32 (order : Wide.Order)
deriving DecidableEq

/-- The encoding that a byte order mark tells, and the bytes after the mark. -/
def markedEncoding? : Bytes → Option (Encoding × Bytes)
  | 0x00 :: 0x00 :: 0xFE :: 0xFF :: rest => some (.utf32 .bigEndian, rest)
  | 0xFF :: 0xFE :: 0x00 :: 0x00 :: rest => some (.utf32 .littleEndian, rest)
  | 0xFE :: 0xFF :: rest => some (.utf16 .bigEndian, rest)
  | 0xFF :: 0xFE :: rest => some (.utf16 .littleEndian, rest)
  | 0xEF :: 0xBB :: 0xBF :: rest => some (.utf8, rest)
  | _ => none

/-- The encoding of bytes without a mark. -/
def unmarkedEncoding : Bytes → Encoding
  | a :: b :: c :: d :: _ =>
    if a = 0 then if b = 0 then .utf32 .bigEndian else .utf16 .bigEndian
    else if b = 0 then if c = 0 ∧ d = 0 then .utf32 .littleEndian else .utf16 .littleEndian
    else .utf8
  | [a, b] => if a = 0 then .utf16 .bigEndian else if b = 0 then .utf16 .littleEndian else .utf8
  | _ => .utf8

def Encoding.decode : Encoding → Bytes → Option Text
  | utf8, bytes => Utf8.decodeWithSurrogates bytes
  | utf16 order, bytes => Wide.decode16 order bytes
  | utf32 order, bytes => Wide.decode32 order bytes

/-- The text of bytes that hold JSON, without a byte order mark. Surrogates are let through. -/
def textOfBytes? (bytes : Bytes) : Option Text :=
  match markedEncoding? bytes with
  | some (encoding, rest) => encoding.decode rest
  | none => (unmarkedEncoding bytes).decode bytes

/-- The value of bytes that hold JSON. -/
def readBytes? (bytes : Bytes) : Option Json := do
  let t ← textOfBytes? bytes
  (read t).toOption

end DemurrageToken.Json
