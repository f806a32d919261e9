import DemurrageToken.Settings.Expansion
import DemurrageToken.Text.Utf8
/-!
Loading a settings file into the environment. Variables that are set already win over the file.
-/
namespace DemurrageToken.Settings

/-- What stands at the path of a settings file. -/
inductive Source where
  | missing
  | directory
  | file (content : Bytes)
deriving DecidableEq

/-- Why settings are not loaded: the file is not UTF-8, or the platform refuses a variable. -/
inductive Fault where
  | undecodable (fault : Utf8.IllFormed)
  | zeroCharacter
  | badName
deriving DecidableEq

def Fault.message : Fault → Text
  | undecodable fault => fault.message
  | zeroCharacter => "embedded null byte"
  | badName => "illegal environment variable name"

/-- A carriage return, alone or before a line feed, is a line feed. -/
def unifyLineEnds : Text → Text
  | c :: d :: rest =>
    if c = .scalar '\r' then
      if d = .scalar '\n' then unifyLineEnds (d :: rest)
      else .scalar '\n' :: unifyLineEnds (d :: rest)
    else c :: unifyLineEnds (d :: rest)
  | [c] => [if c = .scalar '\r' then .scalar '\n' else c]
  | [] => []

/-- The text of a settings file, without a byte order mark. -/
def textOf (t : Text) : Text :=
  unifyLineEnds (match t with
    | .scalar '\ufeff' :: rest => rest
    | _ => t)

/-- The words that switch loading off. -/
def switchWords : List Text := ["1", "true", "t", "yes", "y"]

/-- Letters without regard to case, as far as the switch words can tell: the long s is an s. -/
def foldCase (t : Text) : Text :=
  t.lowerAscii.map fun c => if c = .scalar 'ſ' then .scalar 's' else c

/-- Whether the environment switches loading off. -/
def isDisabled (environment : Environment) : Bool :=
  match environment.lookup (Text.ofString "PYTHON_DOTENV_DISABLED") with
  | some value => switchWords.contains (foldCase value)
  | none => false

/-- The environment with one variable more, unless the platform refuses it. -/
def setVariable (environment : Environment) (name value : Text) : Except Fault Environment :=
  if name.contains (.scalar '\x00') || value.contains (.scalar '\x00') then .error .zeroCharacter
  else if name.contains (.scalar '=') then .error .badName
  else .ok (environment.put name value)

/-- Set variables in order, skipping names that the given environment has and names without a
value. A refused variable leaves those before it set. -/
def setVariables (given environment : Environment) :
    Entries (Option Text) → Environment × Option Fault
  | [] => (environment, none)
  | (_, none) :: rest => setVariables given environment rest
  | (name, some value) :: rest =>
    if (given.lookup name).isSome then setVariables given environment rest
    else
      match setVariable environment name value with
      | .error fault => (environment, some fault)
      | .ok extended => setVariables given extended rest

/-- The text of what stands at a path. A directory counts as an empty file. -/
def Source.text? : Source → Except Fault Text
  | missing | directory => .ok []
  | file content => ((Utf8.decode content).map textOf).mapError .undecodable

/-- The path that settings are loaded from, unless nothing is there. -/
def Source.path? (path : Text) : Source → Option Text
  | missing => none
  | directory | file _ => some path

/-- Load settings: the environment after it, and what went wrong. -/
def load (environment : Environment) (source : Source) : Environment × Option Fault :=
  if isDisabled environment then (environment, none)
  else
    match source.text? with
    | .error fault => (environment, some fault)
    | .ok t => setVariables environment environment (resolve environment (bindings t))

end DemurrageToken.Settings
