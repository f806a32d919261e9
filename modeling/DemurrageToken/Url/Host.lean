import DemurrageToken.DomainName.Basic
import DemurrageToken.Percent
/-!
Hosts of URLs: IPv4 addresses, IPv6 addresses in brackets, and names.
-/
namespace DemurrageToken.Url

inductive HostFault where
  | ipv4 (host : Text)
  | ipv6 (host : Text)
  | international (host : Text)
deriving DecidableEq

def HostFault.message : HostFault → Text
  | ipv4 host => "Invalid IPv4 address: " ++ host.quoted
  | ipv6 host => "Invalid IPv6 address: " ++ host.quoted
  | international host => "Invalid IDNA hostname: " ++ host.quoted

def isAsciiDigit (c : CodePoint) : Bool := 48 ≤ c.val && c.val ≤ 57

def isHexDigit (c : CodePoint) : Bool :=
  isAsciiDigit c || (65 ≤ c.val && c.val ≤ 70) || (97 ≤ c.val && c.val ≤ 102)

/-- Whether a host looks like an IPv4 address: four runs of digits between full stops. -/
def looksLikeIpv4 (host : Text) : Bool :=
  let parts := host.splitOn (.scalar '.')
  parts.length = 4 && parts.all fun part => part ≠ [] && part.all isAsciiDigit

/-- A decimal number below 256 in at most three digits, without a leading zero. -/
def isOctet (t : Text) : Bool :=
  0 < t.length && t.length ≤ 3 && t.all isAsciiDigit
    && (t.length = 1 || t.head? ≠ some (.scalar '0'))
    && t.foldl (fun n c => n * 10 + (c.val - 48)) 0 < 256

def isIpv4 (t : Text) : Bool :=
  let parts := t.splitOn (.scalar '.')
  parts.length = 4 && parts.all isOctet

def isHextet (t : Text) : Bool := 0 < t.length && t.length ≤ 4 && t.all isHexDigit

/-- Groups around the gap `::` of an IPv6 address; the gap stands for at least one group. -/
def isGapped (before after : List Text) : Bool :=
  let groups : List Text → List Text
    | [[]] => []
    | parts => parts
  (groups before).all isHextet && (groups after).all isHextet
    && (groups before).length + (groups after).length ≤ 7

/-- Groups of an IPv6 address, where an IPv4 address at the end has become two groups. -/
def areIpv6Groups (parts : List Text) : Bool :=
  let inner := (parts.drop 1).take (parts.length - 2)
  match inner.filter (· = []) with
  | [] => parts.length = 8 && parts.all isHextet
  | [_] =>
    let before := (inner.takeWhile (· ≠ [])).length + 1
    isGapped (parts.take before) (parts.drop (before + 1))
  | _ => false

def isIpv6 (t : Text) : Bool :=
  let (address, zone) := t.span (· ≠ .scalar '%')
  let zoneOk := match zone with
    | [] => true
    | [_] => false
    | _ :: rest => !rest.contains (.scalar '%')
  let parts := address.splitOn (.scalar ':')
  let grouped := match parts.getLast? with
    | some last =>
      if last.contains (.scalar '.') then
        if isIpv4 last then parts.dropLast ++ [Text.ofString "0", Text.ofString "0"] else []
      else parts
    | none => []
  zoneOk && !address.contains (.scalar '/') && 3 ≤ parts.length && grouped.length ≤ 9
    && areIpv6Groups grouped

/-- The characters of a host name that stand for themselves. -/
def keepsInHost (c : CodePoint) : Bool :=
  Percent.isUnreserved c || (Text.ofString "!$&'()*+,;=\"`\x7b\x7d%|\\").contains c

/-- The normal form of a host. An IPv6 address loses its brackets. -/
def normalHost (host : Text) : Except HostFault Text :=
  if host = [] then .ok []
  else if looksLikeIpv4 host then if isIpv4 host then .ok host else .error (.ipv4 host)
  else if host.head? = some (.scalar '[') ∧ host.getLast? = some (.scalar ']') then
    let inner := (host.drop 1).dropLast
    if isIpv6 inner then .ok inner else .error (.ipv6 host)
  else if host.all CodePoint.isAscii then .ok (Percent.encode keepsInHost host.lowerAscii)
  else (DomainName.write host.lower).mapError fun _ => .international host

end DemurrageToken.Url
