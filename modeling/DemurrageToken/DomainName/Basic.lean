import DemurrageToken.DomainName.Label
import DemurrageToken.Text.Lowercase
/-!
Domain names beyond ASCII. They are divided into labels by full stops of several scripts, and are
written in ASCII label by label.
-/
namespace DemurrageToken.DomainName

/-- The full stops that divide the labels of a name. -/
def isLabelMark (c : CodePoint) : Bool := [0x2E, 0x3002, 0xFF0E, 0xFF61].contains c.val

/-- The labels of a name, and whether a full stop follows the last one. -/
def labels (name : Text) : List Text × Bool :=
  let all := (name.map fun c => if isLabelMark c then .scalar '.' else c).splitOn (.scalar '.')
  if all.getLast? = some [] then (all.dropLast, true) else (all, false)

/-- The labels between full stops, with one at the end if there was one. -/
def ofLabels (labels : List Text) (closed : Bool) : Text :=
  Text.join "." (if closed then labels ++ [[]] else labels)

/-- A name in ASCII. -/
def write (name : Text) : Except Fault Text := do
  if name = [] then throw .emptyName
  if longestName < name.length then throw .nameTooLong
  let (all, closed) := labels name
  let written := ofLabels (← all.mapM writeLabel) closed
  if (if closed then longestName else longestName - 1) < written.length then throw .nameTooLong
  return written

/-- The name, in the form in which it is read, of a name in ASCII. -/
def read (name : Text) : Except Fault Text := do
  if name = [] then throw .emptyName
  if longestName < name.length then throw .nameTooLong
  let (all, closed) := labels name
  return ofLabels (← all.mapM readLabel) closed

end DemurrageToken.DomainName
