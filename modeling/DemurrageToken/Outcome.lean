import DemurrageToken.Log
/-!
What working on something leaves behind besides its result.
-/
namespace DemurrageToken

/-- The entries of the log and what was sent, both in order, and the result. -/
structure Outcome (Sent Failure α : Type) where
  log : List Log.Entry
  sent : List Sent
  result : Except Failure α

namespace Outcome

variable {Sent Failure α : Type}

/-- A failure before anything was logged or sent. -/
def refuse (failure : Failure) : Outcome Sent Failure α := ⟨[], [], .error failure⟩

/-- The outcome with an entry, if there is one, in front of its log. -/
def announce (announcement : Option Log.Entry) (o : Outcome Sent Failure α) :
    Outcome Sent Failure α :=
  { o with log := announcement.toList ++ o.log }

/-- Go on with the result, without logging or sending anything more. -/
def conclude {Failure' β : Type} (o : Outcome Sent Failure α)
    (next : Except Failure α → Except Failure' β) : Outcome Sent Failure' β :=
  ⟨o.log, o.sent, next o.result⟩

end Outcome

end DemurrageToken
