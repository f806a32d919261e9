import DemurrageToken.Deflate.Format
import DemurrageToken.Node.Response
/-!
The codings of a response's body, which its headers name in the order in which they were applied.
-/
namespace DemurrageToken

inductive ContentCoding where
  | gzip
  | deflate
deriving DecidableEq

namespace ContentCoding

/-- The coding of a name without upper-case letters. Other names stand for no coding. -/
def ofName? (name : Text) : Option ContentCoding :=
  if name = Text.ofString "gzip" then some gzip
  else if name = Text.ofString "deflate" then some deflate
  else none

/-- Undo a coding. Deflated data have a header and a checksum, or neither. -/
def decode (coding : ContentCoding) (bytes : Bytes) : Except Deflate.Fault Bytes :=
  match coding with
  | gzip => Deflate.Format.gzip.decompress bytes
  | deflate =>
    match Deflate.Format.zlib.decompress bytes with
    | .ok decoded => .ok decoded
    | .error _ => Deflate.Format.raw.decompress bytes

end ContentCoding

namespace Response

/-- The codings of the body, the last one first. -/
def codings (r : Response) : List ContentCoding :=
  let names := (List.splitOn (.scalar ',') ((r.header? "content-encoding").getD []))
  (names.filterMap fun name => ContentCoding.ofName? (Text.trim name).lowerAscii).reverse

/-- The response with the body as it was before it was coded. -/
def decoded (r : Response) : Except Deflate.Fault Response := do
  let body ← r.codings.foldlM (fun bytes coding => coding.decode bytes) r.body
  return { r with body }

end Response

end DemurrageToken
