import DemurrageToken.Proofs.EmbeddedPayloads
import DemurrageToken.Proofs.PrintedAnswers

/-! How query commands end. A value is printed, or what went wrong is reported;
rejections by the node and failures of HTTP are reported, and nothing else is. What
else a response can do is listed here, and then a failure escapes before anything
is printed. -/
namespace DemurrageToken

namespace Node

/-! ### What a response comes to -/

/-- The failures that a response makes for and that no command reports. Two of the
three ways come before the body is read; a body whose coding cannot be undone is
reported. -/
inductive Passes (url : Url) (r : Response) : Fault → Prop where
  | site {fault : Fault} (hSite : checkCookieSite url = .error fault) : Passes url r fault
  | redirect {location : Text} {redirect : Url.RedirectFault} {fault : Fault}
      (hSite : checkCookieSite url = .ok ()) (hMoved : r.status ∈ [301, 302, 303, 307, 308])
      (hLocation : r.header? "location" = some location)
      (hFollow : url.follow location = .error redirect) (hMisleads : Misleads redirect fault) :
      Passes url r fault
  /-- There is no data, and nothing to report of the body instead. -/
  | unreadable {received : Response} {fault : ContentType.Fault}
      (hDelivered : Delivered url r received) (hNone : ∀ d, ¬Accepts url r d)
      (hText : received.text = .error fault) :
      Passes url r (.unreadable fault)

section

variable {contract : Text} {url : Url} {r : Response}

end

end Node

namespace CommandLine

/-- The failures that escape from a command: the data has not the member that the
command asks for, the value has no UTF-8, or the client fails and nothing is
reported of it. -/
inductive Escapes (operation : Operation) (url : Url) (r : Response) : Crash → Prop where
  | member {d : Json} {name : Text} {fault : Json.AccessFault} (hData : Node.Accepts url r d)
      (hUnwraps : Unwraps operation name) (hMember : d.member name = .error fault) :
      Escapes operation url r (.operation (.answer fault))
  | surrogate {d w : Json} {run : Utf8.SurrogateRun} (hData : Node.Accepts url r d)
      (hPrints : Prints operation d w)
      (hRun : Utf8.FirstRun (w.write .indented ++ Text.ofString "\n") run) :
      Escapes operation url r (.output run)
  | client {fault : Node.Fault} (hPasses : Node.Passes url r fault) :
      Escapes operation url r (.operation (.client fault))

section

variable {s : Setting} {choice : Choice} {operation : Operation} {fields : Entries Json} {url : Url}
  {r : Response}

end

end CommandLine

end DemurrageToken
