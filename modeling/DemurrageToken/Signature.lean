import DemurrageToken.Json.Basic
/-!
Signatures of the client's operations. Arguments come by position or by name, and a call fits a
signature if each parameter gets exactly one value; there are no types to check.
-/
namespace DemurrageToken

/-- A parameter. An optional one counts as null when it is left out. -/
structure Parameter where
  name : Text
  optional : Bool
deriving DecidableEq

namespace Parameter

def required (name : Text) : Parameter := ⟨name, false⟩

def optionalNamed (name : Text) : Parameter := ⟨name, true⟩

end Parameter

/-- The arguments of a call. -/
structure Arguments where
  positional : List Json
  named : Entries Json

abbrev Signature := List Parameter

namespace Signature

/-- The value of a parameter that no positional argument reaches. -/
def namedValue? (named : Entries Json) (p : Parameter) : Option Json :=
  match named.lookup p.name with
  | some v => some v
  | none => if p.optional then some .null else none

/-- The values of the parameters, in their order. There is none if a required parameter is
missing, if there are more positional arguments than parameters, or if a name belongs to no
parameter or to one that has its value by position. -/
def bind (signature : Signature) (arguments : Arguments) : Option (List Json) :=
  let remaining := signature.drop arguments.positional.length
  if arguments.positional.length ≤ signature.length
      ∧ arguments.named.all (fun entry => remaining.any (·.name = entry.1)) then
    (remaining.mapM (namedValue? arguments.named)).map (arguments.positional ++ ·)
  else none

end Signature

end DemurrageToken
