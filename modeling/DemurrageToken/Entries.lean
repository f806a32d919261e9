import DemurrageToken.Text.Basic
/-!
Tables of named values in the order in which the names first came. A JSON object, the process
environment and the named arguments of a call are such tables.
-/
namespace DemurrageToken

abbrev Entries (α : Type) := List (Text × α)

namespace Entries

variable {α : Type}

/-- Give a name a value. A new name goes to the end, a present one keeps its place. -/
def put (name : Text) (value : α) : Entries α → Entries α
  | [] => [(name, value)]
  | (other, old) :: rest =>
    if other = name then (name, value) :: rest else (other, old) :: put name value rest

/-- The table of a sequence of entries: names in the order of their first entry, each with the
value of its last one. -/
def ofList (entries : List (Text × α)) : Entries α :=
  entries.foldl (fun table entry => put entry.1 entry.2 table) []

end Entries

end DemurrageToken
