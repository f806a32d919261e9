import DemurrageToken.CommandLine.Run
import DemurrageToken.Node.Wire
/-!
The program. It reads what a run depends on and writes what the run leaves behind. It opens no
connection itself: a request is shown on the error output, and whoever carries it to the node gives
the response on the standard input.
-/
open DemurrageToken

namespace DemurrageToken.Main

/-- The text as the system takes it, without surrogates. -/
def systemString (t : Text) : String := String.ofList (t.filterMap CodePoint.char?)

/-- The variables of this process. -/
def readEnvironment : IO Environment := do
  let content ← IO.FS.readBinFile "/proc/self/environ"
  let entries := List.splitOn 0 content.toList
  return entries.filterMap fun entry =>
    match Url.splitAtFirst '=' (Utf8.decodeLossy entry) with
    | (name, some value) => some (name, value)
    | (_, none) => none

/-- What stands at a path. -/
def readSource (path : Text) : IO Settings.Source := do
  try
    return .file (← IO.FS.readBinFile (systemString path)).toList
  catch
    | .noFileOrDirectory .. => return .missing
    | _ => return .directory

/-- All that comes on the standard input. -/
def readInput : IO Bytes := do
  let input ← IO.getStdin
  let mut content : ByteArray := .empty
  let mut chunk ← input.read 65536
  while !chunk.isEmpty do
    content := content ++ chunk
    chunk ← input.read 65536
  return content.toList

/-- The reply that comes on the standard input. -/
def readReply : IO (Except Node.TransportFault Response) := do
  match Response.ofBytes? (← readInput) with
  | some r => return .ok r
  | none => return .error (.connection .remoteProtocol "no response on the standard input")

def crashMessage : CommandLine.Crash → Text
  | .settings fault => fault.message
  | .url fault => fault.message
  | .output run => run.message
  | .operation (.answer fault) => fault.message
  | .operation (.refused .arguments) => "the arguments do not fit the operation"
  | .operation (.refused (.unwritable fault)) => fault.message
  | .operation (.client (.unencodable fault)) => fault.message
  | .operation (.client (.url fault)) => fault.message
  | .operation (.client (.site fault)) => fault.message
  | .operation (.client (.relative shown)) => Node.relativeMessage shown
  | .operation (.client (.brackets fault)) => fault.message
  | .operation (.client .closed) => Node.closedMessage
  | .operation (.client .cannotExecute) => Node.cannotExecuteMessage
  | .operation (.client (.unreadable fault)) => fault.message
  | .operation (.client (.rejected r)) => r.message
  | .operation (.client (.transport (.rejection r))) => r.message
  | .operation (.client (.transport (.connection _ message))) => message
  | .operation (.client (.transport (.endOfInput message))) => message
  | .operation (.client (.transport (.other _ message))) => message

/-- Write what a run leaves behind, and give its exit code. -/
def finish (report : CommandLine.Report) : IO UInt32 := do
  IO.print (systemString report.output)
  IO.eprint (systemString report.errors)
  match report.ending with
  | .exit code => return UInt32.ofNat code
  | .crash crash =>
    IO.eprintln (systemString (CommandLine.nameSurrogates (crashMessage crash)))
    return 1

end DemurrageToken.Main

open DemurrageToken.Main in
/-- Run the command line. What is sent does not depend on the reply, so a run that sends a request
is started again once the reply is there. -/
def main (words : List String) : IO UInt32 := do
  let environment ← readEnvironment
  let home := (environment.lookup (Text.ofString "HOME")).getD []
  let settings ← readSource (settingsPath home)
  let unanswered : Except Node.TransportFault Response := .error (.endOfInput [])
  let run := fun reply =>
    CommandLine.run ⟨words.map Text.ofString, environment, settings, home, reply⟩
  let report := run unanswered
  if report.sent.isEmpty then finish report
  else
    for url in report.sent do
      IO.eprintln (systemString ("GET " ++ url.write))
    finish (run (← readReply))
