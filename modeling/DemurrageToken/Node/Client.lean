import DemurrageToken.Contract.Answer
import DemurrageToken.Contract.Call
import DemurrageToken.Json.Bytes
import DemurrageToken.Node.ContentCoding
import DemurrageToken.Outcome
import DemurrageToken.Settings.Environment
import DemurrageToken.Url.Join
import DemurrageToken.Url.Reference
/-!
Clients of a node's REST gateway. A smart query is one GET request whose path holds the address of
the contract and the query in base64. The node answers with JSON; its `data` is the result, and
anything else is a rejected query. A client only queries.
-/
namespace DemurrageToken.Node

/-- A smart query that the node rejected: the report, the status of the response and the code that
the node gives. -/
structure Rejection where
  message : Text
  status : Option Int
  code : Json

/-- The ways in which an exchange with a node fails below the level of responses. -/
inductive ConnectionFault where
  | http
  | request
  | transport
  | timeout
  | connectTimeout
  | readTimeout
  | writeTimeout
  | poolTimeout
  | network
  | connect
  | read
  | write
  | close
  | proxy
  | unsupportedProtocol
  | protocol
  | localProtocol
  | remoteProtocol
  | decoding
  | tooManyRedirects
deriving DecidableEq

/-- Why a request has no response. -/
inductive TransportFault where
  | connection (kind : ConnectionFault) (message : Text)
  /-- The transport itself reports that the node rejects the query. -/
  | rejection (rejection : Rejection)
  | endOfInput (message : Text)
  /-- Any other failure, by its name. -/
  | other (name message : Text)

/-- Why a client does not answer. -/
inductive Fault where
  /-- The query is not written. -/
  | unencodable (fault : Json.Unwritable)
  | url (fault : Url.Fault)
  /-- The URL has a site that cannot be named in a request. -/
  | site (fault : Url.SiteFault)
  | closed
  | transport (fault : TransportFault)
  /-- The response belongs to a URL that does not stand on its own, so there is no site whose
  cookies it could set. -/
  | relative (shown : Text)
  /-- A URL has brackets around something other than an address. -/
  | brackets (fault : Url.Reference.Fault)
  /-- The body of the response has no text. -/
  | unreadable (fault : ContentType.Fault)
  | rejected (rejection : Rejection)
  | cannotExecute

def closedMessage : Text := "Cannot send a request, as the client has been closed."

def relativeMessage (shown : Text) : Text := "unknown url type: " ++ shown.quoted

def cannotExecuteMessage : Text := "'LcdClient' object has no attribute 'execute'"

/-- A client: its base URL as given and as read, and the timeout for each phase of a request. -/
structure Client where
  baseText : Text
  base : Url
  timeout : Json
  closed : Bool

def defaultTimeout : Json := .float (Binary64.ofDecimal false ⟨30, 0⟩)

/-- The base URL of a client: the given one, or that of the environment, without slashes at the
end. -/
def baseUrlText (environment : Environment) (given : Option Text) : Text :=
  let chosen := match given with
    | some (c :: rest) => c :: rest
    | _ => environment.nodeUrl
  Text.dropEndWhile (· = .scalar '/') chosen

/-- The query in a path: its JSON in base64, percent-encoded down to letters and digits. -/
def encodeQuery (query : Json) : Except Json.Unwritable Text :=
  (Payload.embed query).map (Percent.encode Percent.isUnreserved)

/-- The path of a smart query. -/
def queryPath (contract : Text) (query : Json) : Except Json.Unwritable Text :=
  (encodeQuery query).map fun encoded =>
    "/cosmwasm/wasm/v1/contract/" ++ contract ++ "/smart/" ++ encoded

/-- The value of a query in a response, or the node's rejection. A body that is no JSON object, or
an object without data, rejects the query too. -/
def judge (contract : Text) (r : Response) : List Log.Entry × Except Fault Json :=
  let payload? := Json.readBytes? r.body
  let data? := if r.isError then none else payload?.bind (·.member? (Text.ofString "data"))
  match data? with
  | some data => ([], .ok data)
  | none =>
    match r.text with
    | .error fault => ([], .error (.unreadable fault))
    | .ok body =>
      let member (name : Text) : Option Json := payload?.bind (·.member? name)
      let message := ((member "message").getD (.string body)).display
      let report : Text :=
        "Smart query on " ++ contract ++ " failed (HTTP " ++ Text.ofNat r.status ++ "): " ++ message
      ([⟨.warning, .node, report⟩],
        .error (.rejected ⟨"Query error: " ++ message, some r.status,
          (member "code").getD .null⟩))

/-- Whether a text begins with some characters and a colon. -/
def hasType (t : Text) : Bool :=
  match t.span fun c => c ≠ .scalar ':' && c ≠ .scalar '/' with
  | (_ :: _, .scalar ':' :: _) => true
  | _ => false

/-- Check that the cookies of a response from a URL have a site to belong to. A URL may be wrapped
in `URL:`, and what follows its last `#` is no part of the site. -/
def checkCookieSite (url : Url) : Except Fault Unit := do
  let written := url.write
  let unwrapped := (Text.dropStart? "URL:" written).getD written
  let (body, fragment) :=
    match Url.splitAfterLast? '#' unwrapped with
    | some (body, fragment) => (body.dropLast, fragment)
    | none => (unwrapped, [])
  let shown := if fragment = [] then body else body ++ "#" ++ fragment
  if !hasType body then throw (.relative shown)
  let _ ← (Url.Reference.read shown).mapError .brackets

/-- Redirects are not followed, but one that leads nowhere makes the response useless. -/
def checkRedirect (url : Url) (r : Response) : Except Fault Unit :=
  match if [301, 302, 303, 307, 308].contains r.status then r.header? "location" else none with
  | none => .ok ()
  | some location =>
    match url.follow location with
    | .ok _ => .ok ()
    | .error (.location fault) =>
      match fault with
      | .surrogate _ => .error (.url fault)
      | _ =>
        .error (.transport (.connection .remoteProtocol
          ("Invalid URL in location header: " ++ fault.message ++ ".")))
    | .error (.url fault) => .error (.url fault)
    | .error (.site fault) => .error (.site fault)
    | .error (.reference fault) => .error (.brackets fault)

/-- A response to a request for a URL, as it is used. Cookies and redirects are seen to before the
body is read and its coding undone. -/
def accept (url : Url) (r : Response) : Except Fault Response := do
  checkCookieSite url
  checkRedirect url r
  r.decoded.mapError fun fault => .transport (.connection .decoding fault.message)

namespace Client

/-- A client for a base URL. -/
def connect (environment : Environment) (given : Option Text) (timeout : Json) :
    Except Url.Fault Client := do
  let baseText := baseUrlText environment given
  let base ← Url.readBase baseText
  return ⟨baseText, base, timeout, false⟩

def close (c : Client) : Client := { c with closed := true }

/-- The timeouts of each request. -/
def timeouts (c : Client) : Json :=
  .object [("connect", c.timeout), ("read", c.timeout), ("write", c.timeout), ("pool", c.timeout)]

/-- What comes of a reply to a request that has been sent to a URL. -/
def receive (contract : Text) (url : Url) (reply : Except TransportFault Response) :
    List Log.Entry × Except Fault Json :=
  match reply with
  | .error fault => ([], .error (.transport fault))
  | .ok r =>
    match accept url r with
    | .error fault => ([], .error fault)
    | .ok r => judge contract r

/-- The URL of a request for a path. -/
def address (c : Client) (path : Text) : Except Fault Url := do
  let url ← (c.base.below path).mapError .url
  url.checkSite.mapError .site
  return url

/-- Run a smart query on a contract. Of a request that is sent, the transport makes the reply. -/
def query (c : Client) (contract : Text) (query : Json)
    (reply : Except TransportFault Response) : Outcome Url Fault Json :=
  match queryPath contract query with
  | .error fault => .refuse (.unencodable fault)
  | .ok path =>
    Outcome.announce (some ⟨.debug, .node, "GET " ++ c.baseText ++ path⟩) <|
      match c.address path with
      | .error fault => .refuse fault
      | .ok url =>
        if c.closed then .refuse .closed
        else
          let (log, result) := receive contract url reply
          ⟨log, [url], result⟩

/-- The client as a contract handle uses it. -/
def call (c : Client) (reply : Except TransportFault Response) :
    Call → Outcome Url Fault Answer
  | .query contract message => (c.query contract message reply).conclude (·.map .json)
  | .execute .. => .refuse .cannotExecute

end Client

end DemurrageToken.Node
