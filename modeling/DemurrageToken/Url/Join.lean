import DemurrageToken.Url.Basic
/-!
URLs below a base. What is asked for below a base is always appended to the path of the base, or to
its query if it has one.
-/
namespace DemurrageToken.Url

/-- Path and query as they are sent; there is at least a slash. -/
def rawPath (u : Url) : Text :=
  (if u.path = [] then [.scalar '/'] else u.path) ++ u.markedQuery

/-- The URL with another path and query. -/
def withRawPath (u : Url) (raw : Text) : Except Fault Url :=
  let (path, query) := splitAtFirst '?' raw
  u.withParts path query u.fragment

/-- The base that a text gives. Its path, with its query, ends in a slash. -/
def readBase (t : Text) : Except Fault Url := do
  let u ← read t
  let raw := u.rawPath
  if raw.getLast? = some (.scalar '/') then return u else u.withRawPath (raw ++ "/")

/-- The URL of a path below a base. -/
def below (base : Url) (path : Text) : Except Fault Url := do
  let asked ← read path
  base.withRawPath (base.rawPath ++ asked.rawPath.dropWhile (· = .scalar '/'))

end DemurrageToken.Url
