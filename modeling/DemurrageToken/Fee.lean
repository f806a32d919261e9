import DemurrageToken.Json.Numerals
import DemurrageToken.Json.Equality
import DemurrageToken.Signature
/-!
Fees of transactions. One flat fee goes with everything that a contract handle executes; it is
given outright or read from the environment.
-/
namespace DemurrageToken

/-- An amount of one denomination. Nothing about the two values is checked. -/
structure Coin where
  denom : Json
  amount : Json

def Coin.toJson (c : Coin) : Json := .object [("denom", c.denom), ("amount", c.amount)]

def Coin.same (c d : Coin) : Bool := c.denom.same d.denom && c.amount.same d.amount

/-- Coins to pay and a limit on gas. -/
structure Fee where
  amount : List Coin
  gas : Json

namespace Fee

def defaultDenom : Text := "ucosm"

def defaultAmount : Text := "5000"

def defaultGas : Text := "200000"

def toJson (f : Fee) : Json :=
  .object [("amount", .array (f.amount.map Coin.toJson)), ("gas", f.gas)]

/-- Whether two fees are equal: the same coins in the same order, and the same gas. -/
def same (f g : Fee) : Bool :=
  f.amount.length = g.amount.length
    && (f.amount.zip g.amount).all (fun (c, d) => c.same d)
    && f.gas.same g.gas

/-- The fee of one coin. -/
def ofTexts (denom : Json) (amount gas : Text) : Fee :=
  ⟨[⟨denom, .string amount⟩], .string gas⟩

/-- The flat fee. Amount and gas are turned into text, the denomination is not. -/
def flat (denom amount gas : Json) : Except Json.Unwritable Fee := do
  return ofTexts denom (← amount.readable) (← gas.readable)

def flatSignature : Signature := [.required "denom", .required "amount", .required "gas"]

/-- What becomes of the flat fee that arguments ask for, if they fit its signature. -/
def ofArguments? (arguments : Arguments) : Option (Except Json.Unwritable Fee) :=
  match flatSignature.bind arguments with
  | some [denom, amount, gas] => some (flat denom amount gas)
  | _ => none

/-- The flat fee that the environment sets, each part with a default. -/
def ofEnvironment (environment : Entries Text) : Fee :=
  let setting (name default : Text) : Text := (environment.lookup name).getD default
  ofTexts (.string (setting "DEMURRAGE_FEE_DENOM" defaultDenom))
    (setting "DEMURRAGE_FEE_AMOUNT" defaultAmount) (setting "DEMURRAGE_GAS_LIMIT" defaultGas)

end Fee

end DemurrageToken
