import DemurrageToken.Contract.Answer
import DemurrageToken.Contract.Call
import DemurrageToken.Outcome
/-!
Handles of deployed contracts. A handle has the address of a contract and the fee of what it
executes. An operation on it makes one message and at most one call of the client; the client's
failures pass through unchanged.
-/
namespace DemurrageToken

/-- Why an operation fails: it is refused before there is a call, the client fails, or the client's
answer does not hold the result. -/
inductive OperationFailure (ClientFailure : Type) where
  | refused (refusal : Refusal)
  | client (failure : ClientFailure)
  | answer (fault : Json.AccessFault)

structure Handle where
  contract : Text
  fee : Fee

/-- The result of an operation in the client's answer. -/
def Operation.resultIn (operation : Operation) (answer : Answer) : Except Json.AccessFault Answer :=
  match operation with
  | .balance => (answer.member "balance").map .json
  | .allAccounts => (answer.member "accounts").map .json
  | _ =>
    match operation.layer with
    | .query => .ok answer
    | .execute => answer.transactionHash.map .json

namespace Handle

/-- The entry in the log that shows a value between other texts. A value that is not written leaves
no entry, and nothing else comes of that. -/
def announcement? (before : Text) (v : Json) (after : Text) : Option Log.Entry :=
  v.readable.toOption.map fun shown => ⟨.debug, .contract, before ++ shown ++ after⟩

/-- The call of an operation, and the entry in the log that announces it. Amounts become text before
the payload does. -/
def prepare (h : Handle) (operation : Operation) (arguments : Arguments) :
    Except Refusal (Option Log.Entry × Call) :=
  match operation.messageOf? arguments with
  | none => .error .arguments
  | some (sender?, message) =>
    if !operation.hasAmountTexts arguments then .error (.unwritable .tooManyDigits)
    else
      match message.toJson with
      | .error fault => .error (.unwritable fault)
      | .ok wire =>
        match sender? with
        | none =>
          .ok (announcement? ("query " ++ h.contract ++ ": ") wire [], .query h.contract wire)
        | some sender =>
          .ok (announcement? ("execute " ++ h.contract ++ " from ") sender (": " ++ operation.tag),
            .execute sender h.contract wire h.fee)

/-- The result of an operation from what the client's call came to. -/
def settle {Failure : Type} (operation : Operation) :
    Except Failure Answer → Except (OperationFailure Failure) Answer
  | .error failure => .error (.client failure)
  | .ok answer => (operation.resultIn answer).mapError .answer

/-- An operation on a contract, through a client. -/
def invoke {Sent Failure : Type} (h : Handle) (client : Call → Outcome Sent Failure Answer)
    (operation : Operation) (arguments : Arguments) :
    Outcome Sent (OperationFailure Failure) Answer :=
  match h.prepare operation arguments with
  | .error refusal => .refuse (.refused refusal)
  | .ok (announcement, call) => ((client call).conclude (settle operation)).announce announcement

end Handle

end DemurrageToken
