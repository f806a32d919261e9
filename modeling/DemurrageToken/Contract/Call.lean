import DemurrageToken.Fee
import DemurrageToken.Message
/-!
Calls of chain clients. Each operation of the contract becomes one call.
-/
namespace DemurrageToken

/-- What a chain client is asked to do. -/
inductive Call where
  | query (contract : Text) (message : Json)
  | execute (sender : Json) (contract : Text) (message : Json) (fee : Fee)

/-- Why an operation becomes no call: the arguments do not fit its parameters, or an amount or the
payload is not written. -/
inductive Refusal where
  | arguments
  | unwritable (fault : Json.Unwritable)
deriving DecidableEq

namespace Operation

/-- Whether the amounts among the arguments have a text. -/
def hasAmountTexts (operation : Operation) (arguments : Arguments) : Bool :=
  match operation.parameters.bind arguments with
  | none => true
  | some values =>
    (operation.parameters.zip values).all fun (parameter, v) =>
      parameter.name ≠ Text.ofString "amount" || v.hasNumerals

/-- The values of the fields as they go into a message: amounts become text. -/
def withAmountText (operation : Operation) (values : List Json) : List Json :=
  (operation.fields.zip values).map fun (field, v) =>
    if field.name = Text.ofString "amount" then .string v.display else v

/-- The message of an operation on a contract handle, and the sender where there is one. -/
def messageOf? (operation : Operation) (arguments : Arguments) :
    Option (Option Json × Message) := do
  let values ← operation.parameters.bind arguments
  match operation.layer, values with
  | .query, values => return (none, ← Message.ofValues? operation values)
  | .execute, sender :: values =>
    return (some sender, ← Message.ofValues? operation (operation.withAmountText values))
  | .execute, [] => none

end Operation

end DemurrageToken
