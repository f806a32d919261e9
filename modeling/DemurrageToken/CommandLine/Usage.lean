import DemurrageToken.CommandLine.Help
import DemurrageToken.Text.Closest
import DemurrageToken.Text.Quoted
/-!
Words on the command line that make no sense, and how they are reported.
-/
namespace DemurrageToken.CommandLine

/-- What is wrong with the words on the command line. -/
inductive Misuse where
  | unknownCommand (name : Text)
  | unknownOption (name : Text)
  | unknownLetter (letter : CodePoint)
  | valueMissing (option : OptionName)
  | valueUnwanted (option : OptionName)
  | commandMissing
  | argumentMissing (field : Text)
  | noInteger (option : OptionName) (value : Text)
  | extraArguments (words : List Text)
deriving DecidableEq

/-- A hint at the names that a wrong one may stand for. -/
def hint (name : Text) (names : List Text) : Text :=
  match Text.closest name names with
  | [] => []
  | [only] => " Did you mean " ++ only.quoted ++ "?"
  | several =>
    " (Did you mean one of: " ++ Text.join ", " (several.map Text.quoted) ++ "?)"

/-- The report of a misuse of the words that belong to a page. -/
def Misuse.message (page : Page) : Misuse → Text
  | unknownCommand name =>
    "No such command " ++ name.quoted ++ "." ++ hint name (Command.all.map (·.name))
  | unknownOption name =>
    "No such option " ++ name.quoted ++ "." ++ hint name (page.options.map (·.long))
  | unknownLetter letter => "No such option " ++ Text.quoted [.scalar '-', letter] ++ "."
  | valueMissing option => "Option " ++ option.long.quoted ++ " requires an argument."
  | valueUnwanted option => "Option " ++ option.long.quoted ++ " does not take a value."
  | commandMissing => "Missing command."
  | argumentMissing field => "Missing argument " ++ (placeholder field).quoted ++ "."
  | noInteger option value =>
    "Invalid value for " ++ option.long.quoted ++ ": " ++ value.quoted
      ++ " is not a valid integer."
  | extraArguments [word] => "Got unexpected extra argument (" ++ word ++ ")"
  | extraArguments words =>
    "Got unexpected extra arguments (" ++ Text.join " " words ++ ")"

/-- Whether the report comes after the usage line of the page. A value that is missing or unwanted
is reported alone. -/
def Misuse.showsUsage : Misuse → Bool
  | valueMissing _ | valueUnwanted _ => false
  | _ => true

/-- The lines that report a misuse, apart from one another as they are printed. -/
def Misuse.report (page : Page) (m : Misuse) : List Text :=
  let usage := page.usage ++ "\nTry '" ++ page.path ++ " --help' for help.\n"
  (if m.showsUsage then [usage] else []) ++ ["Error: " ++ m.message page]

end DemurrageToken.CommandLine
