import DemurrageToken.Url.Site
/-!
References from one URL to another. A reference may leave out the site and all that comes before
the place where the two differ; then these are taken from the URL that it is found at.
-/
namespace DemurrageToken.Url

/-- The parts of a reference. What is missing is empty. -/
structure Reference where
  scheme : Text
  authority : Text
  path : Text
  query : Text
  fragment : Text
deriving DecidableEq

namespace Reference

/-- Why brackets in an authority do not hold an address. -/
inductive Fault where
  | unbalanced
  | futureAddress
  | ipv4
  | noAddress (host : Text)
deriving DecidableEq

def Fault.message : Fault → Text
  | unbalanced => "Invalid IPv6 URL"
  | futureAddress => "IPvFuture address is invalid"
  | ipv4 => "An IPv4 address cannot be in brackets"
  | noAddress host => host.quoted ++ " does not appear to be an IPv4 or IPv6 address"

/-- Whether what follows the `v` of an address is a version in hexadecimal digits, a full stop and
something after it. -/
def isFutureAddress (t : Text) : Bool :=
  match t.span isHexDigit with
  | (_ :: _, .scalar '.' :: _ :: _) => true
  | _ => false

/-- Check the host between brackets. -/
def checkBracketed (host : Text) : Except Fault Unit :=
  match host with
  | .scalar 'v' :: rest => if isFutureAddress rest then .ok () else .error .futureAddress
  | _ =>
    if isIpv4 host then .error .ipv4
    else if isIpv6 host then .ok ()
    else .error (.noAddress host)

/-- Check the brackets in an authority. -/
def checkBrackets (authority : Text) : Except Fault Unit :=
  let opens := authority.contains (.scalar '[')
  if opens ≠ authority.contains (.scalar ']') then .error .unbalanced
  else if opens then
    let after := ((splitAtFirst '[' authority).2).getD []
    checkBracketed (splitAtFirst ']' after).1
  else .ok ()

/-- A text in its parts. -/
def read (t : Text) : Except Fault Reference := do
  let (scheme, rest) := splitScheme t
  let (authority, rest) :=
    match Text.dropStart? "//" rest with
    | some inner => inner.span fun c => !(Text.ofString "/?#").contains c
    | none => ([], rest)
  checkBrackets authority
  let (rest, fragment) := splitAtFirst '#' rest
  let (path, query) := splitAtFirst '?' rest
  return ⟨scheme.lowerAscii, authority, path, query.getD [], fragment.getD []⟩

/-- The schemes whose references may leave out the site. -/
def relativeSchemes : List String :=
  ["", "ftp", "http", "gopher", "nntp", "imap", "wais", "file", "https", "shttp", "mms", "prospero",
    "rtsp", "rtsps", "rtspu", "sftp", "svn", "svn+ssh", "ws", "wss"]

def hasRelativeScheme (r : Reference) : Bool :=
  relativeSchemes.any fun scheme => Text.ofString scheme = r.scheme

/-- The text of a reference whose scheme is one of those. -/
def write (r : Reference) : Text :=
  let marked (mark : Char) (t : Text) : Text := if t = [] then [] else .scalar mark :: t
  let hierarchy : Text :=
    if r.authority ≠ [] ∨ r.scheme ≠ [] ∨ Text.startsWith "//" r.path then
      let path := if r.path = [] ∨ r.path.head? = some (.scalar '/') then r.path
        else .scalar '/' :: r.path
      "//" ++ r.authority ++ path
    else r.path
  let scheme : Text := if r.scheme = [] then [] else r.scheme ++ ":"
  scheme ++ hierarchy ++ marked '?' r.query ++ marked '#' r.fragment

/-- Resolve dot segments. The segments kept so far come last first. -/
def resolveSegments (kept : List Text) : List Text → List Text
  | [] => kept.reverse
  | segment :: rest =>
    if segment = Text.ofString ".." then resolveSegments (kept.drop 1) rest
    else if segment = Text.ofString "." then resolveSegments kept rest
    else resolveSegments (segment :: kept) rest

/-- The path of a reference that is found at a path. A rooted one stands for itself, and any other
takes the place of the last segment. -/
def mergePaths (found path : Text) : Text :=
  let own := path.splitOn (.scalar '/')
  let segments :=
    if path.head? = some (.scalar '/') then own
    else
      let before := found.splitOn (.scalar '/')
      let directory := if before.getLast? = some [] then before else before.dropLast
      match directory ++ own with
      | [] => []
      | first :: rest => first :: (rest.dropLast.filter (· ≠ []) ++ rest.getLast?.toList)
  let isDots (t : Text) : Bool := t = Text.ofString "." || t = Text.ofString ".."
  let resolved := resolveSegments [] segments
  let joined := Text.join "/" (if segments.getLast?.any isDots then resolved ++ [[]] else resolved)
  if joined = [] then [.scalar '/'] else joined

/-- The text of the URL that a reference leads to from another URL. -/
def resolve (found reference : Text) : Except Fault Text := do
  if reference = [] then return found
  let base ← read found
  let own ← read reference
  let own := if own.scheme = [] then { own with scheme := base.scheme } else own
  if own.scheme ≠ base.scheme || !own.hasRelativeScheme then return reference
  else if own.authority ≠ [] then return own.write
  else
    let own := { own with authority := base.authority }
    if own.path = [] then
      let query := if own.query = [] then base.query else own.query
      return { own with path := base.path, query := query }.write
    else return { own with path := mergePaths base.path own.path }.write

end Reference

/-- Why a text does not lead from one URL to another. -/
inductive RedirectFault where
  /-- The text is no URL at all. -/
  | location (fault : Fault)
  | url (fault : Fault)
  | site (fault : SiteFault)
  | reference (fault : Reference.Fault)

/-- The fragment without percent-encoding. -/
def plainFragment (u : Url) : Text := Utf8.decodeLossy (Percent.decode (u.fragment.getD []))

/-- The URL that a text leads to from another URL. A scheme without a host keeps the host of the
URL, and a missing fragment is taken from it. -/
def follow (u : Url) (location : Text) : Except RedirectFault Url := do
  let target ← (read location).mapError .location
  let target ←
    if target.scheme = [] then pure target
    else do
      let host ← target.readableHost.mapError (.site ∘ .name)
      if host = [] then do
        let own ← u.readableHost.mapError (.site ∘ .name)
        (target.withHost own).mapError .url
      else pure target
  let target ←
    if target.scheme = [] ∨ target.host = [] then do
      let t ← (Reference.resolve u.write target.write).mapError .reference
      (read t).mapError .url
    else pure target
  let target ←
    if u.plainFragment ≠ [] ∧ target.plainFragment = [] then
      (target.withParts target.path target.query (some u.plainFragment)).mapError .url
    else pure target
  target.checkSite.mapError .site
  return target

end DemurrageToken.Url
