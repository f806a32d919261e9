import DemurrageToken.Text.Basic
/-!
What the client reports while it works.
-/
namespace DemurrageToken.Log

inductive Level where
  | debug
  | warning
deriving DecidableEq

/-- The part of the client that reports. -/
inductive Source where
  | contract
  | node
deriving DecidableEq

structure Entry where
  level : Level
  source : Source
  message : Text
deriving DecidableEq

def Level.name : Level → Text
  | debug => "DEBUG"
  | warning => "WARNING"

def Source.name : Source → Text
  | contract => "demurrage.contract"
  | node => "demurrage.chain.lcd"

/-- The entry on a line, after its level and its source. -/
def Entry.line (e : Entry) : Text :=
  e.level.name ++ ":" ++ e.source.name ++ ":" ++ e.message

end DemurrageToken.Log
