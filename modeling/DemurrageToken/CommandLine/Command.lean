import DemurrageToken.Contract.Call
/-!
The commands of the command line and their options. There is a command for each query of the
contract: its required fields are arguments, the others are options.
-/
namespace DemurrageToken.CommandLine

inductive Command where
  | info
  | query (operation : Operation)
deriving DecidableEq

/-- The commands in alphabetical order. -/
def Command.all : List Command :=
  [.query .allAccounts, .query .allAllowances, .query .allowance, .query .balance,
    .query .demurrageAmount, .info, .query .minter, .query .sinkAccount, .query .taxLevel,
    .query .tokenInfo]

/-- A field or a method, as the command line spells it. -/
def dashed (name : Text) : Text :=
  name.map fun c => if c = .scalar '_' then .scalar '-' else c

def Command.name : Command → Text
  | info => "info"
  | query operation => dashed operation.methodName

def Command.named? (name : Text) : Option Command := Command.all.find? (·.name = name)

/-- What the program does in one sentence, and what each command does. -/
def programSummary : Text := "Query a CW20 demurrage token contract."

def Command.summary : Command → Text
  | info => "Show resolved configuration."
  | query .balance => "Token balance of ADDRESS."
  | query .allowance => "Allowance OWNER has granted to SPENDER."
  | query .allAllowances => "Every allowance granted by OWNER."
  | query .allAccounts => "Accounts known to the token contract."
  | query .tokenInfo => "Name, symbol, decimals and total supply."
  | query .minter => "Minter address and cap."
  | query .demurrageAmount => "Current demurrage amount."
  | query .taxLevel => "Current tax level."
  | query .sinkAccount => "Account receiving demurrage tax."
  | query _ => []

/-- The fields of the query that a command asks. -/
def Command.fields : Command → Signature
  | info => []
  | query operation => operation.fields

/-- The names of the fields that are arguments. -/
def Command.arguments (c : Command) : List Text :=
  (c.fields.filter (!·.optional)).map (·.name)

/-- How an argument is called where it is described. -/
def placeholder (field : Text) : Text :=
  field.map fun
    | .scalar c => .scalar c.toUpper
    | .surrogate i => .surrogate i

/-- The options: those of the program, those of commands, and `--help` of all. -/
inductive OptionName where
  | version
  | lcdUrl
  | contract
  | verbose
  | startAfter
  | limit
  | help
deriving DecidableEq

namespace OptionName

def long : OptionName → Text
  | version => "--version"
  | lcdUrl => "--lcd-url"
  | contract => "--contract"
  | verbose => "--verbose"
  | startAfter => "--start-after"
  | limit => "--limit"
  | help => "--help"

/-- The letter of an option that has one. Only options without a value do. -/
def short? : OptionName → Option Char
  | verbose => some 'v'
  | _ => none

/-- What stands for the value of an option that takes one. -/
def valueName? : OptionName → Option Text
  | lcdUrl | contract | startAfter => some "TEXT"
  | limit => some "INTEGER"
  | version | verbose | help => none

def takesValue (o : OptionName) : Bool := o.valueName?.isSome

/-- Whether the option acts before anything else is checked. -/
def isEager : OptionName → Bool
  | version | help => true
  | _ => false

/-- The field of a query that an option sets. -/
def field? : OptionName → Option Text
  | startAfter => some "start_after"
  | limit => some "limit"
  | _ => none

end OptionName

def programOptions : List OptionName := [.version, .lcdUrl, .contract, .verbose, .help]

/-- The options of a command: its optional fields and `--help`. -/
def Command.options (c : Command) : List OptionName :=
  [OptionName.startAfter, .limit, .help].filter fun o =>
    match o.field? with
    | some field => c.fields.contains (.optionalNamed field)
    | none => true

end DemurrageToken.CommandLine
