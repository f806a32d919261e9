import DemurrageToken.Json.Access
/-!
Answers of chain clients. A client answers with JSON or with an object of its own, of which only
the attributes can be seen.
-/
namespace DemurrageToken

inductive Answer where
  | json (value : Json)
  | record (attributes : Entries Json)

namespace Answer

def recordKind : Text := "types.SimpleNamespace"

/-- The member of an answer that has to be a JSON object. -/
def member (name : Text) : Answer → Except Json.AccessFault Json
  | json v => v.member name
  | record _ => .error (.notIndexable recordKind)

/-- The hash of the transaction that an answer reports: a member of a JSON object, an attribute of
any other object. -/
def transactionHash : Answer → Except Json.AccessFault Json
  | json (.object members) => (Json.object members).member "transactionHash"
  | json v => .error (.missingAttribute v.kindName "transaction_hash")
  | record attributes =>
    match attributes.lookup (Text.ofString "transaction_hash") with
    | some v => .ok v
    | none => .error (.missingAttribute recordKind "transaction_hash")

end Answer

end DemurrageToken
