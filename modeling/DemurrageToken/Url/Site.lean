import DemurrageToken.Text.Ascii
import DemurrageToken.Url.Basic
/-!
The site of a URL, which a request names besides the path: host and port.
-/
namespace DemurrageToken.Url

/-- Why a site cannot be named. -/
inductive SiteFault where
  | name (fault : DomainName.Fault)
  | beyondAscii (run : Text.RunBeyondAscii)
deriving DecidableEq

def SiteFault.message : SiteFault → Text
  | name fault => fault.message
  | beyondAscii run => run.message

/-- The host in the form in which it is read. -/
def readableHost (u : Url) : Except DomainName.Fault Text :=
  if Text.startsWith DomainName.asciiMark u.host then DomainName.read u.host else .ok u.host

/-- Host and port. An IPv6 address stands in brackets. -/
def site (u : Url) : Text := ({ u with userinfo := [] } : Url).authority

/-- Check that the site can be named. -/
def checkSite (u : Url) : Except SiteFault Unit := do
  let _ ← u.readableHost.mapError .name
  match Text.runBeyondAscii? 0 u.site with
  | some run => .error (.beyondAscii run)
  | none => .ok ()

end DemurrageToken.Url
