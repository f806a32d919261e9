import DemurrageToken.CommandLine.Console
import DemurrageToken.CommandLine.Request
import DemurrageToken.Contract.Handle
import DemurrageToken.Node.Client
import DemurrageToken.Settings.Load
/-!
Running a command line: settings are loaded, the words are read, and a query is asked over a
client of the node. What comes out is a value; nothing here reads or writes anything.
-/
namespace DemurrageToken.CommandLine

def programVersion : Text := "0.1.0"

/-- What a run depends on. -/
structure Setting where
  words : List Text
  environment : Environment
  settings : Settings.Source
  /-- The home directory, as it is shown. -/
  home : Text
  /-- The reply to a request, should there be one. -/
  reply : Except Node.TransportFault Response

/-- A failure that no report covers. -/
inductive Crash where
  | settings (fault : Settings.Fault)
  | url (fault : Url.Fault)
  | operation (failure : OperationFailure Node.Fault)
  | output (run : Utf8.SurrogateRun)

inductive Ending where
  | exit (code : Nat)
  | crash (crash : Crash)

/-- What a run leaves behind. -/
structure Report where
  ending : Ending
  output : Text
  errors : Text
  sent : List Url

namespace Report

/-- Print lines and end well, unless one of them cannot be written. -/
def printed (errors : Text) (sent : List Url) (lines : List Text) : Report :=
  match writeLines lines with
  | (written, none) => ⟨.exit 0, written, errors, sent⟩
  | (written, some run) => ⟨.crash (.output run), written, errors, sent⟩

/-- Print nothing but a report of what went wrong. -/
def failed (code : Nat) (errors : Text) (sent : List Url) (lines : List Text) : Report :=
  ⟨.exit code, [], errors ++ errorText lines, sent⟩

end Report

/-- The URL of the node: the option, or a variable that is not empty, or the default. -/
def Choice.nodeUrl (c : Choice) (environment : Environment) : Text :=
  let inherited := (environment.lookup (Text.ofString "DEMURRAGE_LCD_URL")).filter (· ≠ [])
  c.lcdUrl.getD (inherited.getD Environment.defaultNodeUrl)

/-- The contract that the program's options lead to: the option, even if it is empty, or a variable
that is not empty. -/
def Choice.chosenContract? (c : Choice) (environment : Environment) : Option Text :=
  match c.contract with
  | some address => some address
  | none => environment.contract?

/-- The contract to ask: the chosen one, or that of the environment if it is empty or missing. -/
def Choice.contract? (c : Choice) (environment : Environment) : Option Text :=
  match c.chosenContract? environment with
  | some (first :: rest) => some (first :: rest)
  | _ => environment.contract?

/-- The lines that show the configuration. -/
def infoLines (choice : Choice) (environment : Environment) (home : Text) : List Text :=
  let contract := match choice.chosenContract? environment with
    | some (first :: rest) => first :: rest
    | _ => Text.ofString "(not set)"
  ["=== Demurrage Client ===", [],
    "  Version:  " ++ programVersion,
    "  Env file: " ++ settingsPath home,
    "  LCD URL:  " ++ choice.nodeUrl environment,
    "  Contract: " ++ contract,
    "  Exec fee: " ++ (Fee.ofEnvironment environment).toJson.write .spaced, []]

/-- The lines of the log that are shown: all of them, or the bare messages of warnings. -/
def shownLog (verbose : Bool) (log : List Log.Entry) : Text :=
  let lines := if verbose then log.map Log.Entry.line
    else (log.filter (·.level = .warning)).map (·.message)
  lines.flatMap fun line => nameSurrogates line ++ "\n"

/-- What is printed in the end for the result of a query. -/
def settleQuery (url : Text) (o : Outcome Url (OperationFailure Node.Fault) Answer)
    (errors : Text) : Report :=
  match o.result with
  | .ok answer =>
    let v := match answer with
      | .json v => v
      | .record attributes => .object attributes
    .printed errors o.sent [v.write .indented]
  | .error (.client (.rejected r)) => .failed 1 errors o.sent ["Error: " ++ r.message]
  | .error (.client (.transport (.rejection r))) =>
    .failed 1 errors o.sent ["Error: " ++ r.message]
  | .error (.client (.transport (.connection _ message))) =>
    .failed 1 errors o.sent ["Error: Cannot reach " ++ url ++ ": " ++ message]
  | .error (.client (.transport (.endOfInput _))) =>
    .failed 1 errors o.sent [[], "Aborted!"]
  | .error failure => ⟨.crash (.operation failure), [], errors, o.sent⟩

/-- Ask the contract and print the answer. -/
def runQuery (s : Setting) (environment : Environment) (choice : Choice) (operation : Operation)
    (fields : Entries Json) : Report :=
  match choice.contract? environment with
  | none => .failed 1 [] [] ["Error: " ++ missingContractMessage s.home]
  | some contract =>
    let url := choice.nodeUrl environment
    match Node.Client.connect environment (some url) Node.defaultTimeout with
    | .error fault => ⟨.crash (.url fault), [], [], []⟩
    | .ok client =>
      let h : Handle := ⟨contract, .ofEnvironment environment⟩
      let o := h.invoke (client.call s.reply) operation ⟨[], fields⟩
      settleQuery url o (shownLog choice.verbose o.log)

/-- Do what the words ask for, in the environment with the settings. -/
def perform (s : Setting) (environment : Environment) : Request → Report
  | .help page => .printed [] [] [page.help.dropLast]
  | .version => .printed [] [] ["demurrage, version " ++ programVersion]
  | .nothing => .failed 2 [] [] [Page.program.help.dropLast]
  | .misuse page misuse => .failed 2 [] [] (misuse.report page)
  | .info choice => .printed [] [] (infoLines choice environment s.home)
  | .query choice operation fields => runQuery s environment choice operation fields

/-- A run. Settings are loaded before the words are read. -/
def run (s : Setting) : Report :=
  match Settings.load s.environment s.settings with
  | (_, some fault) => ⟨.crash (.settings fault), [], [], []⟩
  | (environment, none) => perform s environment (.ofWords s.words)

end DemurrageToken.CommandLine
