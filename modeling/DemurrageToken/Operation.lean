import DemurrageToken.Signature
/-!
The operations of a CW20 token with demurrage. Queries read the state of the contract; the other
operations change it and belong to a transaction.
-/
namespace DemurrageToken

/-- Whether an operation is a smart query or is executed in a transaction. -/
inductive Layer where
  | query
  | execute
deriving DecidableEq

inductive Operation where
  | balance
  | allowance
  | allAllowances
  | allAccounts
  | tokenInfo
  | minter
  | demurrageAmount
  | taxLevel
  | sinkAccount
  | mint
  | transfer
  | burn
  | burnFrom
  | increaseAllowance
  | decreaseAllowance
  | transferFrom
  | send
  | sendFrom
  | updateMinter
  | changeSinkAddress
  | changeTaxLevel
deriving DecidableEq

namespace Operation

def all : List Operation :=
  [balance, allowance, allAllowances, allAccounts, tokenInfo, minter, demurrageAmount, taxLevel,
    sinkAccount, mint, transfer, burn, burnFrom, increaseAllowance, decreaseAllowance,
    transferFrom, send, sendFrom, updateMinter, changeSinkAddress, changeTaxLevel]

def layer : Operation → Layer
  | balance | allowance | allAllowances | allAccounts | tokenInfo | minter | demurrageAmount
  | taxLevel | sinkAccount => .query
  | mint | transfer | burn | burnFrom | increaseAllowance | decreaseAllowance | transferFrom
  | send | sendFrom | updateMinter | changeSinkAddress | changeTaxLevel => .execute

/-- The name under which the contract knows the operation. -/
def tag : Operation → Text
  | balance => "balance"
  | allowance => "allowance"
  | allAllowances => "all_allowances"
  | allAccounts => "all_accounts"
  | tokenInfo => "token_info"
  | minter => "minter"
  | demurrageAmount => "demurrage_amount"
  | taxLevel => "tax_level"
  | sinkAccount => "sink_account"
  | mint => "mint"
  | transfer => "transfer"
  | burn => "burn"
  | burnFrom => "burn_from"
  | increaseAllowance => "increase_allowance"
  | decreaseAllowance => "decrease_allowance"
  | transferFrom => "transfer_from"
  | send => "send"
  | sendFrom => "send_from"
  | updateMinter => "update_minter"
  | changeSinkAddress => "change_sink_address"
  | changeTaxLevel => "change_tax_level"

/-- The name of the operation on a contract handle: its tag, but for the account that receives
the tax, which a handle calls an address. -/
def methodName : Operation → Text
  | sinkAccount => "sink_address"
  | operation => operation.tag

/-- The fields of the operation's message, in the order in which they are written. -/
def fields : Operation → Signature
  | balance => [.required "address"]
  | allowance => [.required "owner", .required "spender"]
  | allAllowances => [.required "owner", .optionalNamed "start_after", .optionalNamed "limit"]
  | allAccounts => [.optionalNamed "start_after", .optionalNamed "limit"]
  | tokenInfo | minter | demurrageAmount | taxLevel | sinkAccount => []
  | mint | transfer => [.required "recipient", .required "amount"]
  | burn | changeTaxLevel => [.required "amount"]
  | burnFrom => [.required "owner", .required "amount"]
  | increaseAllowance | decreaseAllowance =>
    [.required "spender", .required "amount", .optionalNamed "expires"]
  | transferFrom => [.required "owner", .required "recipient", .required "amount"]
  | send => [.required "recipient", .required "amount", .required "msg"]
  | sendFrom =>
    [.required "owner", .required "recipient", .required "amount", .required "msg"]
  | updateMinter => [.required "new_minter"]
  | changeSinkAddress => [.required "address"]

/-- Whether the last field is a payload for the receiver's callback. -/
def carriesPayload : Operation → Bool
  | send | sendFrom => true
  | _ => false

/-- The parameters of the operation on a contract handle: executing needs a sender first. -/
def parameters (operation : Operation) : Signature :=
  match operation.layer with
  | .query => operation.fields
  | .execute => .required "sender_address" :: operation.fields

end Operation

end DemurrageToken
