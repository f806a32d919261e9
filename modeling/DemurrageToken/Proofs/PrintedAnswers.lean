import DemurrageToken.Proofs.CommandRuns
import DemurrageToken.Proofs.CommandSettings
import DemurrageToken.Proofs.IndentedJson
import DemurrageToken.Proofs.NodeAnswers

/-! What query commands print. A run that sent its query is settled by the reply
alone; of data that the client accepts it prints the value that the command asks
for, and what is printed reads back as that value. -/
namespace DemurrageToken

namespace Node

/-- Without headers there is nothing to undo and nowhere to go. -/
theorem delivered_of_bare {url : Url} (hSite : checkCookieSite url = .ok ()) (status : Nat)
    (body : Bytes) : Delivered url ⟨status, [], body⟩ ⟨status, [], body⟩ where
  site := hSite
  redirect _ location hLocation := by cases hLocation
  body := rfl

/-- A response is handed on and its status reports no error, and its body holds
an object with the data. -/
inductive Accepts (url : Url) (r : Response) (d : Json) : Prop where
  | mk {received : Response} {ms : Entries Json} (hDelivered : Delivered url r received)
      (hStatus : ¬(400 ≤ r.status ∧ r.status ≤ 599)) (hHolds : Holds received.body (.object ms))
      (hData : ms.lookup (Text.ofString "data") = some d)

/-- The client accepts such responses and no others. -/
theorem receive_eq_ok_iff {contract : Text} {url : Url} {r : Response} {d : Json} :
    (Client.receive contract url (.ok r)).2 = .ok d ↔ Accepts url r d := by
  by_cases hDelivered : ∃ received, Delivered url r received
  · obtain ⟨received, hReceived⟩ := hDelivered
    have hStatus := (Response.decoded_eq_ok hReceived.body).1
    rw [receive_of_delivered hReceived, judge_eq_ok_iff, hStatus]
    constructor
    · rintro ⟨hNoError, ms, hHolds, hData⟩
      exact .mk hReceived hNoError hHolds hData
    · rintro @⟨other, ms, hOther, hNoError, hHolds, hData⟩
      obtain rfl : other = received := Except.ok.inj (hOther.body.symm.trans hReceived.body)
      exact ⟨hNoError, ms, hHolds, hData⟩
  · rw [not_exists] at hDelivered
    obtain ⟨fault, hFault, -⟩ := @receive_of_undelivered contract r url hDelivered
    rw [hFault]
    refine iff_of_false (by simp) ?_
    rintro @⟨received, -, hReceived, -, -, -⟩
    exact hDelivered received hReceived

/-- Data was read from JSON, so its integers can be written again and its names are
distinct. -/
theorem Accepts.wellFormed {url : Url} {r : Response} {d : Json} (h : Accepts url r d) :
    d.WellFormed := by
  cases h with
  | mk _ _ hHolds hData =>
      obtain ⟨t, -, hDocument⟩ := hHolds
      exact Json.WellFormed.of_lookup hDocument.wellFormed hData

end Node

/-- The value that a query gives, of the data that the node gives. -/
inductive Prints : Operation → Json → Json → Prop where
  | member {operation : Operation} {name : Text} {ms : Entries Json} {w : Json}
      (hUnwraps : Unwraps operation name) (hMember : ms.lookup name = some w) :
      Prints operation (.object ms) w
  | whole {operation : Operation} {d : Json} (hWhole : ∀ name, ¬Unwraps operation name) :
      Prints operation d d

theorem Prints.wellFormed {operation : Operation} {d w : Json} (h : Prints operation d w)
    (hd : d.WellFormed) : w.WellFormed := by
  cases h with
  | member _ hMember => exact hd.of_lookup hMember
  | whole => exact hd

section

variable {Failure : Type} {operation : Operation}

theorem Unwraps.settle_eq {name : Text} (h : Unwraps operation name) (answer : Answer) :
    Handle.settle operation (.ok answer : Except Failure Answer) =
      ((answer.member name).map Answer.json).mapError .answer := by
  cases h <;> rfl

/-- The other queries give the answer as it is. -/
theorem settle_of_whole (hLayer : operation.layer = .query)
    (hWhole : ∀ name, ¬Unwraps operation name) (answer : Answer) :
    Handle.settle operation (.ok answer : Except Failure Answer) = .ok answer := by
  cases operation with
  | balance => exact absurd .balance (hWhole _)
  | allAccounts => exact absurd .allAccounts (hWhole _)
  | allowance | allAllowances | tokenInfo | minter | demurrageAmount | taxLevel | sinkAccount => rfl
  | _ => cases hLayer

theorem Prints.settle_eq {d w : Json} (h : Prints operation d w)
    (hLayer : operation.layer = .query) :
    Handle.settle operation (.ok (.json d) : Except Failure Answer) = .ok (.json w) := by
  cases h with
  | member hUnwraps hMember =>
      rw [hUnwraps.settle_eq, Answer.member, Json.member, hMember]
      rfl
  | whole hWhole => exact settle_of_whole hLayer hWhole _

end

namespace CommandLine

/-- A run that sent its query is settled by what the client makes of the reply. -/
theorem run_of_sent {s : Setting} {choice : Choice} {operation : Operation} {fields : Entries Json}
    (hRequest : Request.ofWords s.words = .query choice operation fields) {url : Url}
    (hSent : url ∈ (run s).sent) :
    operation.layer = .query ∧ ∃ nodeUrl contract o,
      run s = settleQuery nodeUrl o (shownLog choice.verbose o.log) ∧
      o.result = Handle.settle operation
        ((Node.Client.receive contract url s.reply).2.map Answer.json) := by
  obtain ⟨values, tag, slots, hBind, hAsks⟩ := exists_asks_of_request hRequest
  refine ⟨by cases hAsks <;> rfl, ?_⟩
  cases hLoad : Settings.load s.environment s.settings with
  | mk environment fault? =>
      cases fault? with
      | some fault =>
          rw [run, hLoad] at hSent
          cases hSent
      | none =>
          rw [run_of_load hLoad hRequest, runQuery] at hSent ⊢
          cases hContract : choice.contract? environment with
          | none =>
              rw [hContract] at hSent
              cases hSent
          | some contract =>
              cases hConnect : Node.Client.connect environment (some (choice.nodeUrl environment))
                  Node.defaultTimeout with
              | error fault =>
                  simp only [hContract, hConnect] at hSent
                  cases hSent
              | ok client =>
                  simp only [hContract, hConnect, sent_settleQuery] at hSent ⊢
                  refine ⟨_, contract, _, rfl, ?_⟩
                  obtain ⟨others, -, hCall, hResult⟩ := hAsks.invoke_query hBind
                    ⟨contract, .ofEnvironment environment⟩ (client.call s.reply)
                  rw [hCall] at hSent
                  rw [hResult]
                  have hQuery := Node.result_of_sent hSent
                  exact congrArg (fun result => Handle.settle operation (result.map .json)) hQuery

/-- A run with data prints the value that its command asks for. -/
theorem run_of_prints {s : Setting} {choice : Choice} {operation : Operation}
    {fields : Entries Json} (hRequest : Request.ofWords s.words = .query choice operation fields)
    {url : Url} (hSent : url ∈ (run s).sent) {r : Response} (hReply : s.reply = .ok r) {d w : Json}
    (hData : Node.Accepts url r d) (hPrints : Prints operation d w) :
    ∃ errors sent, run s = .printed errors sent [w.write .indented] := by
  obtain ⟨hLayer, nodeUrl, contract, o, hRun, hResult⟩ := run_of_sent hRequest hSent
  rw [hReply, Node.receive_eq_ok_iff.mpr hData, Except.map, hPrints.settle_eq hLayer] at hResult
  exact ⟨_, _, by rw [hRun, settleQuery, hResult]⟩

theorem stripSequences_write (w : Json) :
    stripSequences (w.write .indented) = w.write .indented := by
  refine stripSequences_of_plain fun c hc => ?_
  rintro rfl
  exact absurd (Json.lined_writeAt w 0 _ hc (by decide)) (by decide)

/-- The indented form of a value is printed as it is, or not at all. -/
theorem printed_write (w : Json) (errors : Text) (sent : List Url) :
    Report.printed errors sent [w.write .indented] =
      match Utf8.encode (w.write .indented ++ "\n") with
      | .ok _ => ⟨.exit 0, w.write .indented ++ "\n", errors, sent⟩
      | .error run => ⟨.crash (.output run), [], errors, sent⟩ := by
  rw [Report.printed, writeLines, stripSequences_write, Utf8.encode]
  dsimp only
  cases Utf8.surrogateRun? 0 (w.write .indented ++ Text.ofString "\n") with
  | none => simp [writeLines]
  | some run => rfl

/-- The printed line can be encoded if the value is free of surrogates: the layout
adds none. -/
theorem surrogateFree_printed_iff (w : Json) :
    (w.write .indented ++ Text.ofString "\n").SurrogateFree ↔ w.SurrogateFree := by
  rw [Text.SurrogateFree.append_iff, Json.write,
    Json.surrogateFree_writeAt_iff rfl (.ofChars _) (.ofChars _)]
  exact and_iff_left (.ofChars _)

/-- Of a response with data, a command prints the value that it asks for in
indented form, with an end of line behind it. No other control characters are
printed, those below the space; so no terminal sequence is there to be removed,
and what is printed reads back as the value. -/
theorem run_prints {s : Setting} {choice : Choice} {operation : Operation} {fields : Entries Json}
    (hRequest : Request.ofWords s.words = .query choice operation fields) {url : Url}
    (hSent : url ∈ (run s).sent) {r : Response} (hReply : s.reply = .ok r) {d w : Json}
    (hData : Node.Accepts url r d) (hPrints : Prints operation d w) (hFree : w.SurrogateFree) :
    (run s).ending = .exit 0 ∧
    (run s).output = w.write .indented ++ Text.ofString "\n" ∧
    Json.Indented (w.write .indented) w ∧
    Json.Lined (run s).output ∧
    stripSequences (w.write .indented) = w.write .indented ∧
    Json.read (run s).output = .ok w := by
  have hPortable := (hPrints.wellFormed hData.wellFormed).portable hFree
  have hEncode := Utf8.encode_eq_ok_iff.mpr ⟨(surrogateFree_printed_iff w).mpr hFree, rfl⟩
  have hEnd : Json.Lined (Text.ofString "\n") := by decide
  obtain ⟨errors, sent, hRun⟩ := run_of_prints hRequest hSent hReply hData hPrints
  rw [printed_write, hEncode] at hRun
  rw [hRun]
  exact ⟨rfl, rfl, Json.indented_write hPortable, (Json.lined_writeAt w 0).append hEnd,
    stripSequences_write w, Json.read_write_indented hPortable⟩

/-- The URL of an encoded query at the default node. -/
def exampleUrl (encoded : Text) : Url :=
  ⟨"http", [], "localhost", some 1317, "/cosmwasm/wasm/v1/contract/wasm1x/smart/" ++ encoded, none,
    none⟩

/-- A run with the default node, which answers with a body. -/
def exampleSetting (words : List Text) (body : String) : Setting :=
  ⟨"--contract" :: "wasm1x" :: words, [], .missing, "/root",
    .ok ⟨200, [], Node.exampleBody body⟩⟩

/-- An array without elements and an object are elements of one array, and the
string in it looks like a terminal sequence and a line end. -/
theorem run_prints_accounts :
    let w : Json := .array [.array [], .object [("a", .string "\x1b[1m\n")]]
    let s := exampleSetting ["all-accounts"]
      "\x7b\"data\":\x7b\"accounts\":[[],\x7b\"a\":\"\\u001b[1m\\n\"\x7d]\x7d\x7d"
    (run s).output =
      Text.ofString "[\n  [],\n  \x7b\n    \"a\": \"\\u001b[1m\\n\"\n  \x7d\n]\n" ∧
    Json.read (run s).output = .ok w := by
  intro w s
  have hRequest : Request.ofWords s.words =
      .query ⟨none, some "wasm1x", false⟩ .allAccounts [] := by rfl
  have hSent : exampleUrl "eyJhbGxfYWNjb3VudHMiOnt9fQ%3D%3D" ∈ (run s).sent := by decide +kernel
  have hRead : Json.readBytes? (Node.exampleBody
      "\x7b\"data\":\x7b\"accounts\":[[],\x7b\"a\":\"\\u001b[1m\\n\"\x7d]\x7d\x7d") =
        some (.object [("data", .object [("accounts", w)])]) := by
    decide +kernel
  have hFree : w.SurrogateFree := (Payload.canonical_surrogateFree_iff w).mp (by decide)
  obtain ⟨-, hOutput, -, -, -, hBack⟩ := run_prints hRequest hSent rfl
    (.mk (Node.delivered_of_bare rfl 200 _) (by decide) (Node.readBytes?_eq_some_iff.mp hRead) rfl)
    (.member .allAccounts rfl) hFree
  exact ⟨hOutput.trans (by rfl), hBack⟩

end CommandLine

end DemurrageToken
