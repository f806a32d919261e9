import DemurrageToken.Node.ContentType
/-!
HTTP responses of a node, and their headers and bodies as text.
-/
namespace DemurrageToken

/-- A response as it is received: names and values of headers are bytes. -/
structure Response where
  status : Nat
  headers : List (Bytes × Bytes)
  body : Bytes

namespace Response

/-- Bytes as the code points of their numbers. -/
def latin1 (bytes : Bytes) : Text := bytes.map fun b => CodePoint.ofNat b.toNat

/-- The headers as texts. All of them are read in UTF-8, or all in Latin-1 if one of them is not
UTF-8. -/
def headerTexts (r : Response) : List (Text × Text) :=
  let utf8? := r.headers.mapM fun (name, value) => do
    return (← (Utf8.decode name).toOption, ← (Utf8.decode value).toOption)
  utf8?.getD (r.headers.map fun (name, value) => (latin1 name, latin1 value))

/-- Whether the status reports an error of the client or of the server. -/
def isError (r : Response) : Bool := 400 ≤ r.status && r.status ≤ 599

/-- The value of a header, whose name has no case. Several values are joined. -/
def header? (r : Response) (name : Text) : Option Text :=
  match (r.headerTexts.filter fun entry => entry.1.lowerAscii = name.lowerAscii).map Prod.snd with
  | [] => none
  | values => some (Text.join ", " values)

/-- The character set of the body: UTF-8, unless the content type names another one. -/
def charset (r : Response) : Except ContentType.Fault Charset :=
  match r.header? "content-type" with
  | none => .ok (.utf8 false)
  | some contentType => (ContentType.charset? contentType).map (·.getD (.utf8 false))

/-- The body as text. -/
def text (r : Response) : Except ContentType.Fault Text :=
  if r.body = [] then .ok []
  else do
    let charset ← r.charset
    (charset.decode r.body).mapError .charset

end Response

end DemurrageToken
