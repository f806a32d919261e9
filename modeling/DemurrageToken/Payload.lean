import DemurrageToken.Base64
import DemurrageToken.Json.Numerals
import DemurrageToken.Json.Reader
import DemurrageToken.Json.Writer
/-!
Payloads. A contract hands a callback on as binary data: the UTF-8 of a compact JSON text, written
in base64 where a message holds it. What is embedded reads back as the same value.
-/
namespace DemurrageToken.Payload

/-- The base64 form of a value, or why its JSON text cannot be written. -/
def embed (v : Json) : Except Json.Unwritable Text :=
  if v.hasNumerals then ((Utf8.encode v.canonical).map Base64.encode).mapError .surrogates
  else .error .tooManyDigits

/-- Why binary data holds no value; each reason excludes the ones before it. -/
inductive Fault where
  | notAscii
  | base64 (fault : Base64.Fault)
  | utf8 (fault : Utf8.IllFormed)
  | json (fault : Json.Fault)
deriving DecidableEq

def Fault.message : Fault → Text
  | notAscii => "string argument should contain only ASCII characters"
  | base64 fault => fault.message
  | utf8 fault => fault.message
  | json fault => fault.message

/-- The value that base64 text holds. -/
def extract (t : Text) : Except Fault Json := do
  if !t.all CodePoint.isAscii then throw .notAscii
  let bytes ← (Base64.decode t).mapError .base64
  let text ← (Utf8.decode bytes).mapError .utf8
  (Json.read text).mapError .json

end DemurrageToken.Payload
