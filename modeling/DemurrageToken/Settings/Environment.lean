import DemurrageToken.Entries
/-!
The process environment and the settings that the client takes from it.
-/
namespace DemurrageToken

/-- The variables of a process, each with its value. -/
abbrev Environment := Entries Text

namespace Environment

def defaultNodeUrl : Text := "http://localhost:1317"

/-- The endpoint of the node. A variable that is set to nothing counts as set. -/
def nodeUrl (environment : Environment) : Text :=
  (environment.lookup (Text.ofString "DEMURRAGE_LCD_URL")).getD defaultNodeUrl

/-- The address of the contract, unless there is none or it is empty. -/
def contract? (environment : Environment) : Option Text :=
  (environment.lookup (Text.ofString "DEMURRAGE_CONTRACT")).filter (· ≠ [])

end Environment

/-- Where the settings file of a user stands. -/
def settingsPath (home : Text) : Text := home ++ "/.demurrage/.env"

/-- The report that no contract is set. -/
def missingContractMessage (home : Text) : Text :=
  "DEMURRAGE_CONTRACT not set. Pass --contract or set DEMURRAGE_CONTRACT in "
    ++ settingsPath home ++ "."

end DemurrageToken
