import DemurrageToken.Node.Response
/-!
HTTP responses as bytes: a status line, a line for each header, an empty line and the body.
-/
namespace DemurrageToken.Response

/-- The lines up to the first empty one, without their line ends, and the bytes after it. `line`
holds the bytes of the line that is being read, last first. -/
def splitHead (line : Bytes) : Bytes → Option (List Bytes × Bytes)
  | [] => none
  | b :: rest =>
    if b = 0x0A then
      let whole := (if line.head? = some 0x0D then line.drop 1 else line).reverse
      if whole = [] then some ([], rest)
      else (splitHead [] rest).map fun (lines, body) => (whole :: lines, body)
    else splitHead (b :: line) rest

/-- The status in a line such as `HTTP/1.1 200 OK`. -/
def statusOfLine? (line : Text) : Option Nat :=
  match List.splitOn (.scalar ' ') line with
  | protocol :: code :: _ =>
    if Text.startsWith "HTTP/" protocol ∧ code.length = 3 then
      code.foldlM (fun n c =>
        if 48 ≤ c.val ∧ c.val ≤ 57 then some (n * 10 + (c.val - 48)) else none) 0
    else none
  | _ => none

/-- A header in a line such as `Content-Type: text/plain`. -/
def headerOfLine (line : Bytes) : Bytes × Bytes :=
  let isBlank (b : UInt8) : Bool := b = 0x20 || b = 0x09
  let trim (bytes : Bytes) : Bytes := bytes.dropWhile isBlank |>.reverse.dropWhile isBlank |>.reverse
  let (name, value) := line.span (· ≠ 0x3A)
  (trim name, trim (value.drop 1))

/-- The response that bytes hold. -/
def ofBytes? (bytes : Bytes) : Option Response := do
  let (head, body) ← splitHead [] bytes
  match head with
  | [] => none
  | first :: rest =>
    let status ← statusOfLine? (latin1 first)
    return ⟨status, rest.map headerOfLine, body⟩

end DemurrageToken.Response
