import DemurrageToken.CommandLine.Command
/-!
Help pages. The program and each command has one: a usage line, a sentence, and the options and
commands in two columns.
-/
namespace DemurrageToken.CommandLine

inductive Page where
  | program
  | command (command : Command)
deriving DecidableEq

namespace Page

/-- The words that lead to a page. -/
def path : Page → Text
  | program => "demurrage"
  | command c => "demurrage " ++ c.name

def options : Page → List OptionName
  | program => programOptions
  | command c => c.options

def usage (p : Page) : Text :=
  let words : List Text := match p with
    | program => ["[OPTIONS]", "COMMAND", "[ARGS]..."]
    | command c => "[OPTIONS]" :: c.arguments.map placeholder
  "Usage: " ++ p.path ++ words.flatMap (.scalar ' ' :: ·)

def summary : Page → Text
  | program => programSummary
  | command c => c.summary

/-- What an option does, in lines. -/
def describe : Page → OptionName → List Text
  | _, .version => ["Show the version and exit."]
  | _, .lcdUrl => ["Cosmos LCD (REST) endpoint  [default:", "http://localhost:1317]"]
  | _, .contract => ["Token contract address"]
  | _, .verbose => ["Enable debug logging"]
  | command (.query .allAllowances), .startAfter => ["Pagination cursor (spender address)"]
  | _, .startAfter => ["Pagination cursor (account address)"]
  | _, .limit => ["Maximum entries to return"]
  | _, .help => ["Show this message and exit."]

end Page

/-- An option with its letter and the name of its value. -/
def OptionName.heading (o : OptionName) : Text :=
  let short : Text := match o.short? with
    | some letter => .scalar '-' :: .scalar letter :: ", "
    | none => []
  let value : Text := match o.valueName? with
    | some name => .scalar ' ' :: name
    | none => []
  short ++ o.long ++ value

def spaces (count : Nat) : Text := List.replicate count (.scalar ' ')

/-- Rows in two columns. The second one begins two places right of the longest heading. -/
def columns (rows : List (Text × List Text)) : Text :=
  let width := (rows.map fun row => row.1.length).foldl max 0
  rows.flatMap fun (heading, lines) =>
    let first := spaces 2 ++ heading ++ spaces (width - heading.length + 2)
    first ++ Text.join (.scalar '\n' :: spaces (width + 4)) lines ++ "\n"

/-- A help page. -/
def Page.help (p : Page) : Text :=
  let options := p.options.map fun o => (o.heading, p.describe o)
  let commands : Text := match p with
    | program =>
      "\nCommands:\n" ++ columns (Command.all.map fun c => (c.name, [c.summary]))
    | command _ => []
  p.usage ++ "\n\n  " ++ p.summary ++ "\n\nOptions:\n" ++ columns options ++ commands

end DemurrageToken.CommandLine
