import DemurrageToken.Proofs.CommandRequests
import DemurrageToken.Proofs.ResolvedSettings

/-! What runs of the command line send. A query command sends one request at
most, and everything else sends none; what is printed has no part in it. -/
namespace DemurrageToken.CommandLine

/-! ### Reports -/

theorem sent_printed (errors : Text) (sent : List Url) (lines : List Text) :
    (Report.printed errors sent lines).sent = sent := by
  rw [Report.printed]
  rcases writeLines lines with ⟨written, _ | run⟩ <;> rfl

/-- Reporting a result leaves what was sent as it is. -/
theorem sent_settleQuery (url : Text) (o : Outcome Url (OperationFailure Node.Fault) Answer)
    (errors : Text) : (settleQuery url o errors).sent = o.sent := by
  rw [settleQuery]
  split
  · exact sent_printed ..
  all_goals rfl

theorem ending_printed (errors : Text) (sent : List Url) (lines : List Text) :
    (Report.printed errors sent lines).ending ≠ .exit 2 := by
  rw [Report.printed]
  rcases writeLines lines with ⟨written, _ | run⟩ <;> simp

/-- What comes of a query is never reported as a usage error. -/
theorem ending_settleQuery (url : Text) (o : Outcome Url (OperationFailure Node.Fault) Answer)
    (errors : Text) : (settleQuery url o errors).ending ≠ .exit 2 := by
  rw [settleQuery]
  split
  · exact ending_printed _ _ _
  all_goals simp [Report.failed]

/-! ### Queries -/

/-- A query with a client of the node sends what the client sends for the
message of its row. -/
theorem sent_runQuery {s : Setting} {environment : Environment} {choice : Choice}
    {operation : Operation} {fields : Entries Json} {contract : Text} {client : Node.Client}
    (hContract : choice.contract? environment = some contract)
    (hConnect : Node.Client.connect environment (some (choice.nodeUrl environment))
      Node.defaultTimeout = .ok client)
    {values : List Json} {tag : Text} {slots : List (Text × Slot)} {written : Entries Json}
    (hAsks : Asks operation values none tag slots)
    (hBind : operation.parameters.bind ⟨[], fields⟩ = some values)
    (hWritten : Written slots written) :
    (runQuery s environment choice operation fields).sent =
      (client.query contract (.object [(tag, .object written)]) s.reply).sent := by
  simp only [runQuery, hContract, hConnect, sent_settleQuery]
  obtain ⟨others, hOthers, hSent, -⟩ :=
    hAsks.invoke_query hBind ⟨contract, .ofEnvironment environment⟩ (client.call s.reply)
  rw [hSent, hWritten.unique hOthers]
  rfl

/-- A query command runs in the environment that the settings file has been loaded
into. -/
theorem run_of_load {s : Setting} {loaded : Environment}
    (hLoad : Settings.load s.environment s.settings = (loaded, none)) {choice : Choice}
    {operation : Operation} {fields : Entries Json}
    (hRequest : Request.ofWords s.words = .query choice operation fields) :
    run s = runQuery s loaded choice operation fields := by
  rw [run, hLoad]
  simp only [hRequest]
  rfl

/-- A query command sends what is sent below the base of its client. -/
theorem sends_run_of_connect {s : Setting} {loaded : Environment} {choice : Choice}
    {operation : Operation} {fields : Entries Json}
    (hLoad : Settings.load s.environment s.settings = (loaded, none))
    (hRequest : Request.ofWords s.words = .query choice operation fields) {b : Node.Base}
    {slashes : Nat} {contract : Text}
    (hConnect : Node.Client.connect loaded (some (choice.nodeUrl loaded)) Node.defaultTimeout =
      Node.Client.connect loaded (some (b.slashed slashes)) Node.defaultTimeout)
    (hContract : choice.resolvedContract? loaded = some contract)
    (hLetters : ∀ c ∈ contract, Percent.isLetterOrDigit c = true)
    (hLength : b.text.length ≤ Url.lengthLimit) {values : List Json} {tag : Text}
    {slots : List (Text × Slot)} {written : Entries Json}
    (hAsks : Asks operation values none tag slots)
    (hBind : operation.parameters.bind ⟨[], fields⟩ = some values)
    (hWritten : Written slots written) :
    b.Sends contract (.object [(tag, .object written)]) (run s).sent := by
  obtain ⟨client, hClient⟩ := b.exists_client hLength loaded slashes Node.defaultTimeout
  rw [run_of_load hLoad hRequest, sent_runQuery ((contract?_eq choice loaded).trans hContract)
    (hConnect.trans hClient) hAsks hBind hWritten]
  exact Node.Base.sends_of_connect hClient hLetters _ s.reply

theorem sends_run {s : Setting} {loaded : Environment} {choice : Choice} {operation : Operation}
    {fields : Entries Json} (hLoad : Settings.load s.environment s.settings = (loaded, none))
    (hRequest : Request.ofWords s.words = .query choice operation fields) {b : Node.Base}
    {slashes : Nat} {contract : Text} (hUrl : choice.resolvedUrl loaded = b.slashed slashes)
    (hContract : choice.resolvedContract? loaded = some contract)
    (hLetters : ∀ c ∈ contract, Percent.isLetterOrDigit c = true)
    (hLength : b.text.length ≤ Url.lengthLimit) {values : List Json} {tag : Text}
    {slots : List (Text × Slot)} {written : Entries Json}
    (hAsks : Asks operation values none tag slots)
    (hBind : operation.parameters.bind ⟨[], fields⟩ = some values)
    (hWritten : Written slots written) :
    b.Sends contract (.object [(tag, .object written)]) (run s).sent :=
  sends_run_of_connect hLoad hRequest (connect_nodeUrl hUrl) hContract hLetters hLength hAsks hBind
    hWritten

/-! ### Runs that ask nothing -/

/-- Runs that ask nothing: the words are misused, there are none, they ask for
the version, for help or for the configuration, or no contract is set. -/
inductive Idle (s : Setting) : Prop where
  | misuse {page : Page} {misuse : Misuse} (h : Request.ofWords s.words = .misuse page misuse)
  /-- A usage error has a code of its own. -/
  | usage (h : (run s).ending = .exit 2)
  | nothing (h : s.words = [])
  /-- `--version` or `--help` before the command. -/
  | eager {before words : List Text} {chosen : List (OptionName × Text)} {o : OptionName}
      (hBefore : Arranged [.lcdUrl, .contract, .verbose] before chosen [])
      (ho : o = .version ∨ o = .help) (h : s.words = before ++ o.long :: words)
  /-- `--help` after the command. -/
  | help {words rest others : List Text} {chosen given : List (OptionName × Text)}
      {name : Text} {c : Command}
      (hStarts : Starts s.words chosen name (words ++ Text.ofString "--help" :: rest))
      (hName : Command.named? name = some c) (hWords : Arranged c.options words given others)
  | info {words : List Text} {chosen : List (OptionName × Text)}
      (hStarts : Starts s.words chosen "info" words)
  | contract {choice : Choice} {operation : Operation} {fields : Entries Json}
      (h : Request.ofWords s.words = .query choice operation fields)
      (hOption : choice.contract.getD [] = [])
      (hVariable : ((Settings.load s.environment s.settings).1.lookup
        (Text.ofString "DEMURRAGE_CONTRACT")).getD [] = [])

theorem sent_perform {s : Setting} {environment : Environment} {request : Request}
    (h : ¬request.IsQuery) : (perform s environment request).sent = [] := by
  cases request with
  | query => exact absurd trivial h
  | nothing | misuse => rfl
  | help | version | info => exact sent_printed ..

/-- A client sends one request at most. -/
theorem length_sent_query (client : Node.Client) (contract : Text) (query : Json)
    (reply : Except Node.TransportFault Response) :
    (client.query contract query reply).sent.length ≤ 1 := by
  rw [Node.Client.query]
  split
  · exact Nat.zero_le 1
  · rw [Outcome.announce]
    split
    · exact Nat.zero_le 1
    · split
      · exact Nat.zero_le 1
      · exact Nat.le_refl 1

/-- An operation sends no more than a call of its client does. -/
theorem length_sent_invoke (h : Handle) {client : Call → Outcome Url Node.Fault Answer}
    (hClient : ∀ call, (client call).sent.length ≤ 1) (operation : Operation)
    (arguments : Arguments) : (h.invoke client operation arguments).sent.length ≤ 1 := by
  rw [Handle.invoke]
  split
  · exact Nat.zero_le 1
  · exact hClient _

/-- A run sends something only in the course of a query, and then one request. -/
theorem run_cases (s : Setting) :
    (run s).sent = [] ∨
      ∃ url o errors, o.sent.length ≤ 1 ∧ run s = settleQuery url o errors := by
  have hCall : ∀ (client : Node.Client) (call : Call),
      (client.call s.reply call).sent.length ≤ 1 := by
    intro client call
    cases call with
    | query contract message => exact length_sent_query client contract message s.reply
    | execute => exact Nat.zero_le 1
  rw [run]
  split
  · exact .inl rfl
  · next environment _ =>
      by_cases hQuery : (Request.ofWords s.words).IsQuery
      · cases hRequest : Request.ofWords s.words with
        | query choice operation fields =>
            rw [perform, runQuery]
            split
            · exact .inl rfl
            · dsimp only
              split
              · exact .inl rfl
              · exact .inr ⟨_, _, _, length_sent_invoke _ (hCall _) _ _, rfl⟩
        | _ =>
            rw [hRequest] at hQuery
            cases hQuery
      · exact .inl (sent_perform hQuery)

theorem length_sent_run (s : Setting) : (run s).sent.length ≤ 1 := by
  rcases run_cases s with hSent | ⟨url, o, errors, hLength, hRun⟩
  · rw [hSent]
    exact Nat.zero_le 1
  · rwa [hRun, sent_settleQuery]

theorem sent_of_usage {s : Setting} (h : (run s).ending = .exit 2) : (run s).sent = [] := by
  rcases run_cases s with hSent | ⟨url, o, errors, -, hRun⟩
  · exact hSent
  · rw [hRun] at h
    exact absurd h (ending_settleQuery url o errors)

/-- Runs that ask nothing send nothing. -/
theorem Idle.sent_eq {s : Setting} (h : Idle s) : (run s).sent = [] := by
  -- A usage error is known by its code, whatever the words are; the other cases are
  -- known by the words, and then the settings have been loaded before.
  by_cases hUsage : (run s).ending = .exit 2
  · exact sent_of_usage hUsage
  rw [run]
  cases hLoad : Settings.load s.environment s.settings with
  | mk environment fault? =>
      cases fault? with
      | some fault => rfl
      | none =>
          dsimp only
          cases h with
          | misuse h =>
              rw [h]
              rfl
          | usage h => exact absurd h hUsage
          | nothing h =>
              rw [h]
              rfl
          | eager hBefore ho h =>
              rw [h]
              apply sent_perform
              rcases ho with rfl | rfl
              · exact not_isQuery_of_eager hBefore (by decide) rfl _
              · exact not_isQuery_of_eager hBefore (by decide) rfl _
          | help hStarts hName hWords =>
              rw [ofWords_of_command hStarts hName]
              exact sent_perform (not_isQuery_of_help hWords _ _)
          | info hStarts =>
              have hName : Command.named? "info" = some .info := by decide
              rw [ofWords_of_command hStarts hName]
              exact sent_perform (not_isQuery_info _ _)
          | contract h hOption hVariable =>
              rw [hLoad] at hVariable
              simp only [h, perform, runQuery, contract?_eq,
                resolvedContract?_eq_none hOption hVariable]
              rfl

/-! ### Runs that ask -/

/-- A command line that asks a query of a contract, with the options of the
program before the command: the text of the node's URL, the contract, and the
tag and the fields of the query. -/
inductive AsksFor : List Text → Text → Text → Text → Entries Json → Prop where
  | mk {name url contract tag : Text} {operation : Operation} {line words arguments : List Text}
      {chosen given : List (OptionName × Text)} {valued : List OptionName} {fields : Entries Json}
      {start? limitText? : Option Text} {limit? : Option Int}
      (hRow : Row name operation arguments valued tag fields)
      (hStarts : Starts line chosen name words)
      (hUrl : Last chosen .lcdUrl (some url)) (hContract : Last chosen .contract (some contract))
      (hWords : Arranged valued words given arguments) (hStart : Last given .startAfter start?)
      (hLimit : Last given .limit limitText?)
      (hInteger : Option.Rel Text.IsDecimal limitText? limit?)
      (hArguments : ∀ t ∈ arguments, t.SurrogateFree)
      (hStartFree : ∀ start, start? = some start → start.SurrogateFree) :
      AsksFor line url contract tag (fields ++ pageFields start? limit?)

/-- The fields of a page are portable: a start without surrogates, and a limit that
was given in few enough digits. -/
theorem portable_pageFields {start? : Option Text} {limitText? : Option Text} {limit? : Option Int}
    (hInteger : Option.Rel Text.IsDecimal limitText? limit?)
    (hStart : ∀ start, start? = some start → start.SurrogateFree) :
    ∀ v ∈ (pageFields start? limit?).map Prod.snd, v.Portable := by
  intro v hv
  rw [pageFields, List.map_append, List.mem_append] at hv
  rcases hv with hv | hv
  · cases start? with
    | none => cases hv
    | some start =>
        rw [List.mem_singleton.mp hv]
        exact .string (hStart start rfl)
  · cases hInteger with
    | none => cases hv
    | some hDecimal =>
        rw [List.mem_singleton.mp hv]
        exact .int (Text.length_toDigits_of_isDecimal hDecimal)

/-- What a command line asks for is asked by the request that it is read as. -/
theorem AsksFor.request {line : List Text} {url contract tag : Text} {fields : Entries Json}
    (h : AsksFor line url contract tag fields) :
    ∃ choice operation values slots,
      Request.ofWords line = .query choice operation fields ∧
      choice.lcdUrl = some url ∧ choice.contract = some contract ∧
      operation.parameters.bind ⟨[], fields⟩ = some values ∧
      Asks operation values none tag slots ∧ Written slots fields ∧
      (Json.object [(tag, .object fields)]).Portable := by
  cases h with
  | @mk name url contract tag operation line words arguments chosen given valued fields start?
      limitText? limit? hRow hStarts hUrl hContract hWords hStart hLimit hInteger hArguments
      hStartFree =>
      obtain ⟨choice, hRequest, hChoiceUrl, hChoiceContract⟩ :=
        ofWords_of_row hRow hStarts hWords hStart hLimit hInteger
      have hNone : valued = [] → start? = none ∧ limit? = none := by
        rintro rfl
        obtain rfl := hWords.given_eq_nil
        obtain rfl := hLimit.eq_none
        cases hInteger
        exact ⟨hStart.eq_none, rfl⟩
      obtain ⟨values, slots, hBind, hAsks, hWritten⟩ := hRow.exists_asks hNone
      refine ⟨choice, operation, values, slots, hRequest, hChoiceUrl _ hUrl,
        hChoiceContract _ hContract, hBind, hAsks, hWritten,
        hAsks.portable hWritten.names_sublist fun v hv => ?_⟩
      rw [List.map_append, List.mem_append] at hv
      rcases hv with hv | hv
      · obtain ⟨t, ht, rfl⟩ := hRow.mem_fields hv
        exact .string (hArguments t ht)
      · exact portable_pageFields hInteger hStartFree v hv

/-- A command line that asks a query sends it as one request below the base,
whatever the arrangement of its words, and the last part of the path decodes to
the query. No run sends more than one request, and idle runs send none. -/
theorem run_asks {s : Setting} {loaded : Environment}
    (hLoad : Settings.load s.environment s.settings = (loaded, none)) {b : Node.Base}
    {slashes : Nat} {contract tag : Text} {fields : Entries Json}
    (hWords : AsksFor s.words (b.slashed slashes) contract tag fields) (hNonempty : contract ≠ [])
    (hContract : ∀ c ∈ contract, Percent.isLetterOrDigit c = true)
    (hBase : b.text.length ≤ Url.lengthLimit)
    (hPath : ∀ e, Node.encodeQuery (.object [(tag, .object fields)]) = .ok e →
      (b.path contract e).length ≤ Url.lengthLimit) :
    (∃ url e t, (run s).sent = [url] ∧ b.Asks contract e url ∧
      Node.encodeQuery (.object [(tag, .object fields)]) = .ok e ∧ .scalar '/' ∉ e ∧
      Utf8.decode (Percent.decode e) = .ok t ∧
      Payload.extract t = .ok (.object [(tag, .object fields)])) ∧
    ∀ other, (run other).sent.length ≤ 1 ∧ (Idle other → (run other).sent = []) := by
  refine ⟨?_, fun other => ⟨length_sent_run other, Idle.sent_eq⟩⟩
  obtain ⟨choice, operation, values, slots, hRequest, hUrl, hGiven, hBind, hAsks, hWritten,
    hPortable⟩ := hWords.request
  obtain ⟨e, t, hEncode, hEscaped, -, hDecode, hExtract⟩ := Node.encodeQuery_of_portable hPortable
  have hSends := sends_run hLoad hRequest (resolvedUrl_of_given hUrl (b.slashed_ne_nil slashes) _)
    (resolvedContract?_of_given hGiven hNonempty _) hContract hBase hAsks hBind hWritten
  rw [Node.Base.Sends, hEncode] at hSends
  simp only [hPath e hEncode, if_true] at hSends
  obtain ⟨url, hSent, hAsked⟩ := hSends
  exact ⟨url, e, t, hSent, hAsked, hEncode, Node.slash_notMem_escapedBase64 hEscaped, hDecode,
    hExtract⟩

/-- The limit counts that is given last, though it stands after the argument,
and the empty cursor is sent. -/
theorem run_asks_allowances :
    ∃ url, (run ⟨["--contract=wasm1x", "--lcd-url", "http://localhost:1317/lcd//",
        "all-allowances", "--limit=x", "--start-after", "", "ü", "--limit", "0"], [], .missing,
        "/root", .error (.endOfInput [])⟩).sent = [url] ∧
      url.rawPath = Text.ofString "/lcd/cosmwasm/wasm/v1/contract/wasm1x/smart/" ++
        "eyJhbGxfYWxsb3dhbmNlcyI6eyJvd25lciI6IsO8Iiwic3RhcnRfYWZ0ZXIiOiIiLCJsaW1pdCI6MH19" := by
  have hHost : Url.IsHost (Text.ofString "localhost") :=
    .ascii (by decide) (by decide) (by decide) fun hMarked => absurd hMarked (by decide)
  have hPart : Url.IsPortPart (Text.ofString ":1317") :=
    @Url.IsPortPart.digits ['1', '3', '1', '7'] (by simp) (by decide)
  let b : Node.Base := ⟨"http", "localhost", ":1317", ["lcd"], .inl rfl, hHost, hPart, by decide,
    by decide⟩
  have hBefore : Arranged [.lcdUrl, .contract, .verbose]
      ["--contract=wasm1x", "--lcd-url", "http://localhost:1317/lcd//"]
      [(.contract, "wasm1x"), (.lcdUrl, b.slashed 2)] [] :=
    @Arranged.joined _ .contract "wasm1x" _ _ _ (by decide) rfl
      (@Arranged.apart _ .lcdUrl _ _ _ _ (by decide) rfl .nil)
  have hAfter : Arranged [.startAfter, .limit]
      ["--limit=x", "--start-after", "", "ü", "--limit", "0"]
      [(.limit, "x"), (.startAfter, ""), (.limit, "0")] ["ü"] :=
    @Arranged.joined _ .limit "x" _ _ _ (by decide) rfl
      (@Arranged.apart _ .startAfter _ _ _ _ (by decide) rfl
        (.other (by decide) (@Arranged.apart _ .limit _ _ _ _ (by decide) rfl .nil)))
  have hZero : Text.IsDecimal (Text.ofString "0") 0 :=
    @Text.IsDecimal.unsigned ['0'] (by simp) (by simp) (by decide)
  have hWords : AsksFor _ (b.slashed 2) "wasm1x" "all_allowances" _ :=
    .mk (.allAllowances "ü") (.plain hBefore) (@Last.last _ _ [_] [] _ rfl (by simp))
      (@Last.last _ _ [] _ _ rfl (by simp)) hAfter (@Last.last _ _ [_] _ _ rfl (by decide))
      (@Last.last _ _ [_, _] [] _ rfl (by decide)) (.some hZero) (by decide) (by decide)
  have hEncode : Node.encodeQuery (.object [("all_allowances", .object [("owner", .string "ü"),
      ("start_after", .string ""), ("limit", .int 0)])]) = .ok (Text.ofString
        "eyJhbGxfYWxsb3dhbmNlcyI6eyJvd25lciI6IsO8Iiwic3RhcnRfYWZ0ZXIiOiIiLCJsaW1pdCI6MH19") := by
    decide
  have hPath : (Node.frontPath ["lcd"] ++ Node.smartPath "wasm1x"
      "eyJhbGxfYWxsb3dhbmNlcyI6eyJvd25lciI6IsO8Iiwic3RhcnRfYWZ0ZXIiOiIiLCJsaW1pdCI6MH19").length ≤
        Url.lengthLimit := by
    decide +kernel
  have hLoad : Settings.load [] .missing = ([], none) := by decide
  have hBase : (Node.baseText "http" "localhost" ":1317" ["lcd"]).length ≤ Url.lengthLimit := by
    decide
  obtain ⟨⟨url, e, t, hSent, hAsked, hE, -⟩, -⟩ :=
    @run_asks ⟨_, [], .missing, "/root", .error (.endOfInput [])⟩ [] hLoad b 2 "wasm1x" _ _ hWords
      (by decide) (by decide) hBase fun e hE => by
        obtain rfl := Except.ok.inj (hEncode.symm.trans hE)
        exact hPath
  obtain rfl := Except.ok.inj (hEncode.symm.trans hE)
  exact ⟨url, hSent, hAsked.path.trans (by rfl)⟩

end DemurrageToken.CommandLine
