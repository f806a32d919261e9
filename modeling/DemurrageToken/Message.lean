import DemurrageToken.Json.Equality
import DemurrageToken.Operation
import DemurrageToken.Payload
/-!
Messages to the contract. A message is an operation with a value for each of its fields. On the
wire it is an object with the operation's tag as its only name.
-/
namespace DemurrageToken

/-- An operation with the values of its fields, in the order of the fields. -/
structure Message where
  operation : Operation
  values : List Json
  complete : values.length = operation.fields.length

namespace Message

/-- The message with the given values, if there is one for each field. -/
def ofValues? (operation : Operation) (values : List Json) : Option Message :=
  if h : values.length = operation.fields.length then some ⟨operation, values, h⟩ else none

/-- The message that arguments make, if they fit the operation's fields. -/
def ofArguments? (operation : Operation) (arguments : Arguments) : Option Message :=
  (operation.fields.bind arguments).bind (ofValues? operation)

def namedValues (m : Message) : Entries Json :=
  (m.operation.fields.map (·.name)).zip m.values

/-- Replace the payload, the value named `msg`, by its base64 form. -/
def embedPayload : Entries Json → Except Json.Unwritable (Entries Json)
  | [] => .ok []
  | (name, v) :: rest => do
    let embedded ←
      if name = Text.ofString "msg" then (Payload.embed v).map Json.string else .ok v
    let others ← embedPayload rest
    .ok ((name, embedded) :: others)

/-- The fields on the wire. Null fields are left out, except beside a payload. -/
def body (m : Message) : Except Json.Unwritable (Entries Json) :=
  if m.operation.carriesPayload then embedPayload m.namedValues
  else .ok (Json.withoutNulls m.namedValues)

/-- The wire form of a message. It fails only for a payload that has no binary form. -/
def toJson (m : Message) : Except Json.Unwritable Json :=
  m.body.map fun fields => .object [(m.operation.tag, .object fields)]

/-- Whether two messages are equal: the same operation, and fields that count as the same. -/
def same (m n : Message) : Bool :=
  m.operation = n.operation && Json.sameElements m.values n.values

end Message

end DemurrageToken
