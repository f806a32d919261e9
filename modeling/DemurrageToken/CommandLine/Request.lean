import DemurrageToken.CommandLine.Words
/-!
What a command line asks for.
-/
namespace DemurrageToken.CommandLine

/-- The options of the program, as they are given. -/
structure Choice where
  lcdUrl : Option Text
  contract : Option Text
  verbose : Bool

inductive Request where
  /-- Print a help page. -/
  | help (page : Page)
  | version
  /-- There are no words at all. -/
  | nothing
  | misuse (page : Page) (misuse : Misuse)
  | info (choice : Choice)
  /-- Ask the contract, with a value for each field of the query that is given. -/
  | query (choice : Choice) (operation : Operation) (fields : Entries Json)

def Choice.ofWords (w : Words) : Choice :=
  ⟨w.value? .lcdUrl, w.value? .contract, w.has .verbose⟩

/-- What an eager option asks for. -/
def eagerRequest (page : Page) : OptionName → Request
  | .version => .version
  | _ => .help page

/-- The values of the options of a query that are given. -/
def optionFields (w : Words) : List OptionName → Except Misuse (Entries Json)
  | [] => .ok []
  | option :: rest =>
    match option.field?, w.value? option with
    | some field, some value =>
      if option = .limit then
        match value.toInt? with
        | some n => (optionFields w rest).map ((field, .int n) :: ·)
        | none => .error (.noInteger option value)
      else (optionFields w rest).map ((field, .string value) :: ·)
    | _, _ => optionFields w rest

/-- The values of the arguments of a command, each of which needs a word. -/
def argumentFields : List Text → List Text → Except Misuse (Entries Json)
  | [], [] => .ok []
  | [], words => .error (.extraArguments words)
  | field :: _, [] => .error (.argumentMissing field)
  | field :: fields, word :: words =>
    (argumentFields fields words).map ((field, .string word) :: ·)

/-- What the words after the name of a command ask for. -/
def Command.request (c : Command) (choice : Choice) (words : List Text) : Request :=
  let page := Page.command c
  match Words.divide c.options true words with
  | .error m => .misuse page m
  | .ok w =>
    match w.eager? with
    | some option => eagerRequest page option
    | none =>
      let fields := do
        let options ← optionFields w c.options
        let arguments ← argumentFields c.arguments w.others
        return arguments ++ options
      match fields, c with
      | .error m, _ => .misuse page m
      | .ok _, .info => .info choice
      | .ok values, .query operation => .query choice operation values

/-- What remains of words whose first one names no command. If it looks like an option, it may
still be one of the program. -/
def unknownCommandRequest (name : Text) (words : List Text) : Request :=
  match Words.divide programOptions false (name :: words) with
  | .error m => .misuse .program m
  | .ok w =>
    match w.eager? with
    | some option => eagerRequest .program option
    | none => .misuse .program (.unknownCommand name)

/-- What a command line asks for. The options of the program come before the command. -/
def Request.ofWords (words : List Text) : Request :=
  match words with
  | [] => .nothing
  | _ =>
    match Words.divide programOptions false words with
    | .error m => .misuse .program m
    | .ok w =>
      match w.eager?, w.others with
      | some option, _ => eagerRequest .program option
      | none, [] => .misuse .program .commandMissing
      | none, name :: rest =>
        match Command.named? name with
        | some c => c.request (.ofWords w) rest
        | none => unknownCommandRequest name rest

end DemurrageToken.CommandLine
