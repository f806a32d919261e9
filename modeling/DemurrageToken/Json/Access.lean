import DemurrageToken.Json.Display
/-!
Parts of values that have to be there. A value that does not have the part that is asked for is
told by its kind.
-/
namespace DemurrageToken.Json

/-- Why a value does not have a part. -/
inductive AccessFault where
  | missingMember (name : Text)
  | missingAttribute (kind name : Text)
  | arrayIndex
  | stringIndex
  | notIndexable (kind : Text)
deriving DecidableEq

def AccessFault.message : AccessFault → Text
  | missingMember name => name.quoted
  | missingAttribute kind name => "'" ++ kind ++ "' object has no attribute '" ++ name ++ "'"
  | arrayIndex => "list indices must be integers or slices, not str"
  | stringIndex => "string indices must be integers, not 'str'"
  | notIndexable kind => "'" ++ kind ++ "' object is not subscriptable"

/-- A member of a value that has to be an object with that member. -/
def member (name : Text) : Json → Except AccessFault Json
  | object members =>
    match members.lookup name with
    | some v => .ok v
    | none => .error (.missingMember name)
  | array _ => .error .arrayIndex
  | string _ => .error .stringIndex
  | v => .error (.notIndexable v.kindName)

/-- An object without its null members; nulls further down stay. -/
def dropNull : Json → Except AccessFault Json
  | object members => .ok (object (withoutNulls members))
  | v => .error (.missingAttribute v.kindName "items")

end DemurrageToken.Json
