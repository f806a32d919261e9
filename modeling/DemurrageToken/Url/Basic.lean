import DemurrageToken.Text.Integer
import DemurrageToken.Url.Host
/-!
URLs in normal form. The parts of a URL are normalised when they are put together: the scheme and
the host become lower-case, a default port goes, dot segments go, and what may not stand for itself
in a part is percent-encoded.
-/
namespace DemurrageToken

/-- A URL in normal form. The host stands without brackets. -/
structure Url where
  scheme : Text
  userinfo : Text
  host : Text
  port : Option Int
  path : Text
  query : Option Text
  fragment : Option Text
deriving DecidableEq

namespace Url

/-- The parts that a URL can be put together from. -/
inductive Part where
  | scheme
  | authority
  | path
  | query
  | fragment
  | host
deriving DecidableEq

def Part.name : Part → Text
  | scheme => "scheme"
  | authority => "authority"
  | path => "path"
  | query => "query"
  | fragment => "fragment"
  | host => "host"

/-- Why a text is no URL. -/
inductive Fault where
  | tooLong
  | partTooLong (part : Part)
  | control (c : CodePoint) (position : Nat)
  | partControl (part : Part) (c : CodePoint) (position : Nat)
  | host (fault : HostFault)
  | port (text : Text)
  | unrootedPath
  | doubleSlash
  | leadingColon
  /-- A part holds a surrogate, which has no UTF-8 to encode. -/
  | surrogate (c : CodePoint)
deriving DecidableEq

def Fault.message : Fault → Text
  | tooLong => "URL too long"
  | partTooLong part => "URL component '" ++ part.name ++ "' too long"
  | control c position =>
    "Invalid non-printable ASCII character in URL, " ++ Text.quoted [c] ++ " at position "
      ++ Text.ofNat position ++ "."
  | partControl part c position =>
    "Invalid non-printable ASCII character in URL " ++ part.name ++ " component, "
      ++ Text.quoted [c] ++ " at position " ++ Text.ofNat position ++ "."
  | host fault => fault.message
  | port t => "Invalid port: " ++ t.quoted
  | unrootedPath => "For absolute URLs, path must be empty or begin with '/'"
  | doubleSlash => "Relative URLs cannot have a path starting with '//'"
  | leadingColon => "Relative URLs cannot have a path starting with ':'"
  | surrogate c => Utf8.SurrogateRun.message ⟨0, c, 1⟩

/-- The greatest length of a URL and of each of its parts. -/
def lengthLimit : Nat := 65536

/-! ### Encoding of the parts -/

/-- Printable ASCII without the given characters. -/
def keepsExcept (excluded : String) (c : CodePoint) : Bool :=
  0x20 ≤ c.val && c.val ≤ 0x7E && !(Text.ofString excluded).contains c

def keepsInFragment : CodePoint → Bool := keepsExcept " \"<>`"

def keepsInQuery : CodePoint → Bool := keepsExcept " \"#<>"

def keepsInPath : CodePoint → Bool := keepsExcept " \"#<>?`\x7b\x7d"

def keepsInUserinfo : CodePoint → Bool := keepsExcept " \"#<>?`\x7b\x7d/;=@[\\]^|"

/-- Percent-encode a part, in which `%` always stands for itself. -/
def encodePart (keeps : CodePoint → Bool) (t : Text) : Except Fault Text :=
  match t.find? CodePoint.isSurrogate with
  | some c => .error (.surrogate c)
  | none => .ok (Percent.encode keeps t)

/-! ### Paths -/

/-- Go through the segments of a path: `.` is dropped, and `..` drops the segment before it, but
not an empty first one. The segments kept so far come last first. -/
def resolveSegments (kept : List Text) : List Text → List Text
  | [] => kept.reverse
  | segment :: rest =>
    if segment = Text.ofString "." then resolveSegments kept rest
    else if segment = Text.ofString ".." then
      resolveSegments (if kept = [[]] then kept else kept.drop 1) rest
    else resolveSegments (segment :: kept) rest

/-- A path without dot segments. -/
def removeDots (path : Text) : Text :=
  Text.join "/" (resolveSegments [] (path.splitOn (.scalar '/')))

/-! ### Ports -/

def defaultPort? (scheme : Text) : Option Int :=
  [(Text.ofString "ftp", (21 : Int)), ("http", 80), ("https", 443), ("ws", 80),
    ("wss", 443)].lookup scheme

/-- The port that a text gives, unless it is the default of the scheme. -/
def normalPort (scheme port : Text) : Except Fault (Option Int) :=
  if port = [] then .ok none
  else
    match port.toInt? with
    | none => .error (.port port)
    | some n => .ok (if defaultPort? scheme = some n then none else some n)

/-! ### Putting together -/

/-- Cut a text after the last occurrence of a character, if there is one. -/
def splitAfterLast? (mark : CodePoint) (t : Text) : Option (Text × Text) :=
  let (after, before) := t.reverse.span fun c => c ≠ mark
  if before = [] then none else some (before.reverse, after.reverse)

/-- Userinfo, host and port of an authority. The userinfo ends at the last `@`; a host in brackets
ends at the last closing one. -/
def splitAuthority (authority : Text) : Text × Text × Text :=
  let (userinfo, rest) := (splitAfterLast? '@' authority).getD ([], authority)
  let bracketed? := if rest.head? = some (.scalar '[') then splitAfterLast? ']' rest else none
  let (host, port) :=
    bracketed?.getD (rest.span fun c => c ≠ .scalar ':' && c ≠ .scalar '@')
  (userinfo.dropLast, host, if port.head? = some (.scalar ':') then port.drop 1 else port)

/-- Whether a path may stand after the parts before it. -/
def checkPath (hasScheme hasAuthority : Bool) (path : Text) : Except Fault Unit :=
  if hasAuthority && path ≠ [] && path.head? ≠ some (.scalar '/') then .error .unrootedPath
  else if !hasScheme && !hasAuthority && Text.startsWith "//" path then .error .doubleSlash
  else if !hasScheme && !hasAuthority && Text.startsWith ":" path then .error .leadingColon
  else .ok ()

/-- The URL of its smallest parts. A path on its own keeps its dot segments, which may lead out of
the base that it will be joined to. -/
def ofSmallParts (scheme userinfo host port path : Text) (query fragment : Option Text) :
    Except Fault Url := do
  let userinfo ← encodePart keepsInUserinfo userinfo
  let host ← (normalHost host).mapError .host
  let port ← normalPort scheme port
  let hasScheme := scheme ≠ []
  let hasAuthority := userinfo ≠ [] || host ≠ [] || port ≠ none
  checkPath hasScheme hasAuthority path
  let path ← encodePart keepsInPath (if hasScheme || hasAuthority then removeDots path else path)
  let query ← query.mapM (encodePart keepsInQuery)
  let fragment ← fragment.mapM (encodePart keepsInFragment)
  return ⟨scheme.lowerAscii, userinfo, host, port, path, query, fragment⟩

/-- The URL of its parts. -/
def ofParts (scheme authority path : Text) (query fragment : Option Text) : Except Fault Url :=
  let (userinfo, host, port) := splitAuthority authority
  ofSmallParts scheme userinfo host port path query fragment

/-! ### Reading and writing -/

def isSchemeCharacter (c : CodePoint) : Bool :=
  Percent.isLetterOrDigit c || (Text.ofString "+.-").contains c

/-- The scheme before a colon, and what follows the colon. The scheme may be empty. -/
def splitScheme (t : Text) : Text × Text :=
  match t.span isSchemeCharacter with
  | (scheme, .scalar ':' :: rest) =>
    match scheme with
    | [] => ([], rest)
    | .scalar c :: _ => if c.isAlpha then (scheme, rest) else ([], t)
    | .surrogate _ :: _ => ([], t)
  | _ => ([], t)

/-- Cut a text at the first occurrence of a character, which is dropped. -/
def splitAtFirst (mark : Char) (t : Text) : Text × Option Text :=
  match t.span (· ≠ .scalar mark) with
  | (before, _ :: after) => (before, some after)
  | (before, []) => (before, none)

/-- The first control character of ASCII, and its position. -/
def control? (t : Text) : Option (CodePoint × Nat) :=
  let isControl (c : CodePoint) : Bool := c.val < 0x20 || c.val = 0x7F
  (t.findIdx? isControl).bind fun position => t[position]?.map fun c => (c, position)

/-- The URL that a text gives. -/
def read (t : Text) : Except Fault Url :=
  if lengthLimit < t.length then .error .tooLong
  else
    match control? t with
    | some (c, position) => .error (.control c position)
    | none =>
      let (scheme, rest) := splitScheme t
      let (beforeFragment, fragment) := splitAtFirst '#' rest
      let (hierarchy, query) := splitAtFirst '?' beforeFragment
      let (authority, path) :=
        match Text.dropStart? "//" hierarchy with
        | some inner => inner.span (· ≠ .scalar '/')
        | none => ([], hierarchy)
      ofParts scheme authority path query fragment

/-- Userinfo, host and port. An IPv6 address stands in brackets. -/
def authority (u : Url) : Text :=
  let userinfo : Text := if u.userinfo = [] then [] else u.userinfo ++ "@"
  let host : Text := if u.host.contains (.scalar ':') then "[" ++ u.host ++ "]" else u.host
  let port : Text := match u.port with
    | some n => ":" ++ Text.ofInt n
    | none => []
  userinfo ++ host ++ port

/-- The query with its mark, if there is one. -/
def markedQuery (u : Url) : Text :=
  match u.query with
  | some query => .scalar '?' :: query
  | none => []

/-- The text of a URL. -/
def write (u : Url) : Text :=
  let scheme : Text := if u.scheme = [] then [] else u.scheme ++ ":"
  let authority : Text := if u.authority = [] then [] else "//" ++ u.authority
  let fragment : Text := match u.fragment with
    | some fragment => .scalar '#' :: fragment
    | none => []
  scheme ++ authority ++ u.path ++ u.markedQuery ++ fragment

/-! ### Other parts in a URL -/

/-- Check the parts that a URL is put together from, each for its length and for controls. -/
def checkParts : List (Part × Text) → Except Fault Unit
  | [] => .ok ()
  | (part, t) :: rest =>
    if lengthLimit < t.length then .error (.partTooLong part)
    else
      match control? t with
      | some (c, position) => .error (.partControl part c position)
      | none => checkParts rest

/-- The URL with another path, query and fragment, put together again from its parts. -/
def withParts (u : Url) (path : Text) (query fragment : Option Text) : Except Fault Url := do
  checkParts [(.scheme, u.scheme), (.authority, u.authority), (.path, path),
    (.query, query.getD []), (.fragment, fragment.getD [])]
  ofParts u.scheme u.authority path query fragment

/-- The URL with another host, put together again from its parts. -/
def withHost (u : Url) (host : Text) : Except Fault Url := do
  let bracketed : Text := if host.contains (.scalar ':') then "[" ++ host ++ "]" else host
  checkParts [(.scheme, u.scheme), (.authority, u.authority), (.path, u.path),
    (.query, u.query.getD []), (.fragment, u.fragment.getD []), (.host, bracketed)]
  let (userinfo, _, port) := splitAuthority u.authority
  ofSmallParts u.scheme userinfo bracketed port u.path u.query u.fragment

end Url

end DemurrageToken
