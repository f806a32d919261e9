import DemurrageToken.Proofs.CommandRuns

/-! What a query command does with the settings: whatever it sends goes where a
library client with the same settings sends it, and without a contract it
reports what the library reports. -/
namespace DemurrageToken.CommandLine

/-! ### Error reports -/

/-- Text without an escape character holds no terminal sequence. -/
theorem stripSequences_of_plain {t : Text} (h : ∀ c ∈ t, c ≠ .scalar '\x1b') :
    stripSequences t = t := by
  rw [stripSequences]
  induction t with
  | nil => rfl
  | cons c t ih =>
      have hSequence : afterSequence? (c :: t) = none := by
        have hc := h c (List.mem_cons_self ..)
        rw [afterSequence?.eq_def]
        split
        · next hEscape => exact absurd (List.head_eq_of_cons_eq hEscape) hc
        · rfl
      rw [stripSequencesAfter, hSequence]
      exact congrArg (c :: ·) (ih fun d hd => h d (List.mem_cons_of_mem _ hd))

/-- Text without surrogates is reported as it is. -/
theorem nameSurrogates_of_surrogateFree {t : Text} (h : t.SurrogateFree) :
    nameSurrogates t = t := by
  induction t with
  | nil => rfl
  | cons c t ih =>
      have hc := h c (List.mem_cons_self ..)
      have hTail := ih fun d hd => h d (List.mem_cons_of_mem _ hd)
      rw [nameSurrogates] at hTail ⊢
      simp only [List.flatMap_cons, hc, Bool.false_eq_true, if_false, hTail, List.singleton_append]

/-- A line of plain text is shown as it is. -/
theorem errorText_of_plain {t : Text} (hPlain : ∀ c ∈ t, c ≠ .scalar '\x1b')
    (hFree : t.SurrogateFree) : errorText [t] = t ++ "\n" := by
  rw [errorText, List.flatMap_singleton, stripSequences_of_plain hPlain,
    nameSurrogates_of_surrogateFree hFree]

/-! ### Runs -/

/-- What a query command does in the environment with the settings. -/
structure Resolves (s : Setting) (choice : Choice) (operation : Operation) (fields : Entries Json)
    (loaded : Environment) : Prop where
  /-- The words start the command of the query. -/
  command : ∃ chosen name words, Starts s.words chosen name words ∧
    Command.named? name = some (.query operation)
  /-- The options are those that are given last before the command. -/
  options : ∀ chosen name words, Starts s.words chosen name words →
    (Command.named? name).isSome = true →
    (∀ value?, Last chosen .lcdUrl value? → choice.lcdUrl = value?) ∧
      ∀ value?, Last chosen .contract value? → choice.contract = value?
  /-- Whatever is sent goes below the resolved base and to the resolved contract. -/
  sent : ∀ (b : Node.Base) slashes contract, choice.resolvedUrl loaded = b.slashed slashes →
    choice.resolvedContract? loaded = some contract →
    (∀ c ∈ contract, Percent.isLetterOrDigit c = true) →
    ∀ url ∈ (run s).sent, ∃ e, b.Asks contract e url
  /-- The query is sent if it can be encoded and nothing is too long. -/
  asks : ∀ (b : Node.Base) slashes contract, choice.resolvedUrl loaded = b.slashed slashes →
    choice.resolvedContract? loaded = some contract →
    (∀ c ∈ contract, Percent.isLetterOrDigit c = true) → b.text.length ≤ Url.lengthLimit →
    ∃ values tag slots written, operation.parameters.bind ⟨[], fields⟩ = some values ∧
      Asks operation values none tag slots ∧ Written slots written ∧
      b.Sends contract (.object [(tag, .object written)]) (run s).sent
  /-- Without a contract nothing is sent but the report that there is none. -/
  missing : choice.resolvedContract? loaded = none →
    run s = ⟨.exit 1, [], errorText ["Error: " ++ missingContractMessage s.home], []⟩
  /-- The report is the message of the library, if the home directory has a plain name. -/
  report : choice.resolvedContract? loaded = none → (∀ c ∈ s.home, c ≠ .scalar '\x1b') →
    s.home.SurrogateFree →
    (run s).errors = "Error: " ++ missingContractMessage s.home ++ "\n"

/-- The report of a missing contract is printed as it is, if the home directory is
plain. -/
theorem missing_report (s : Setting) (hPlain : ∀ c ∈ s.home, c ≠ .scalar '\x1b')
    (hFree : s.home.SurrogateFree) :
    errorText ["Error: " ++ missingContractMessage s.home] =
      "Error: " ++ missingContractMessage s.home ++ "\n" := by
  have hLiterals : ∀ literal ∈ [Text.ofString "Error: ",
      "DEMURRAGE_CONTRACT not set. Pass --contract or set DEMURRAGE_CONTRACT in ",
      "/.demurrage/.env", "."], ∀ c ∈ literal, c ≠ .scalar '\x1b' ∧ c.isSurrogate = false := by
    decide
  have hText : ∀ c ∈ Text.ofString "Error: " ++ missingContractMessage s.home,
      c ≠ .scalar '\x1b' ∧ c.isSurrogate = false := by
    intro c hc
    simp only [missingContractMessage, settingsPath, List.mem_append] at hc
    rcases hc with hc | (hc | hc | hc) | hc
    · exact hLiterals _ (by simp) c hc
    · exact hLiterals _ (by simp) c hc
    · exact ⟨hPlain c hc, hFree c hc⟩
    · exact hLiterals _ (by simp) c hc
    · exact hLiterals _ (by simp) c hc
  exact errorText_of_plain (fun c hc => (hText c hc).1) fun c hc => (hText c hc).2

section

variable {s : Setting} {choice : Choice} {operation : Operation} {fields : Entries Json}
  {loaded : Environment} {b : Node.Base} {slashes : Nat} {contract : Text}

/-- A query command has a row, and sends its message below the base of its client. -/
theorem exists_sends_of_connect
    (hLoad : Settings.load s.environment s.settings = (loaded, none))
    (hRequest : Request.ofWords s.words = .query choice operation fields)
    (hConnect : Node.Client.connect loaded (some (choice.nodeUrl loaded)) Node.defaultTimeout =
      Node.Client.connect loaded (some (b.slashed slashes)) Node.defaultTimeout)
    (hContract : choice.resolvedContract? loaded = some contract)
    (hLetters : ∀ c ∈ contract, Percent.isLetterOrDigit c = true)
    (hLength : b.text.length ≤ Url.lengthLimit) :
    ∃ values tag slots written, operation.parameters.bind ⟨[], fields⟩ = some values ∧
      Asks operation values none tag slots ∧ Written slots written ∧
      b.Sends contract (.object [(tag, .object written)]) (run s).sent := by
  obtain ⟨values, tag, slots, hBind, hAsks⟩ := exists_asks_of_request hRequest
  obtain ⟨written, hWritten⟩ := hAsks.exists_written
  exact ⟨values, tag, slots, written, hBind, hAsks, hWritten,
    sends_run_of_connect hLoad hRequest hConnect hContract hLetters hLength hAsks hBind hWritten⟩

/-- A query command has a row, and sends its message below the base that is resolved. -/
theorem exists_sends (hLoad : Settings.load s.environment s.settings = (loaded, none))
    (hRequest : Request.ofWords s.words = .query choice operation fields)
    (hUrl : choice.resolvedUrl loaded = b.slashed slashes)
    (hContract : choice.resolvedContract? loaded = some contract)
    (hLetters : ∀ c ∈ contract, Percent.isLetterOrDigit c = true)
    (hLength : b.text.length ≤ Url.lengthLimit) :
    ∃ values tag slots written, operation.parameters.bind ⟨[], fields⟩ = some values ∧
      Asks operation values none tag slots ∧ Written slots written ∧
      b.Sends contract (.object [(tag, .object written)]) (run s).sent :=
  exists_sends_of_connect hLoad hRequest (connect_nodeUrl hUrl) hContract hLetters hLength

/-- A base that is too long has no client, so that nothing is sent. -/
theorem asks_of_connect (hLoad : Settings.load s.environment s.settings = (loaded, none))
    (hRequest : Request.ofWords s.words = .query choice operation fields)
    (hConnect : Node.Client.connect loaded (some (choice.nodeUrl loaded)) Node.defaultTimeout =
      Node.Client.connect loaded (some (b.slashed slashes)) Node.defaultTimeout)
    (hContract : choice.resolvedContract? loaded = some contract)
    (hLetters : ∀ c ∈ contract, Percent.isLetterOrDigit c = true) {url : Url}
    (hSent : url ∈ (run s).sent) : ∃ e, b.Asks contract e url := by
  rcases Nat.lt_or_ge Url.lengthLimit b.text.length with hLong | hLength
  · have hFails := hConnect.trans (b.connect_of_tooLong hLong loaded slashes _)
    have hAddress := (contract?_eq choice loaded).trans hContract
    simp [run_of_load hLoad hRequest, runQuery, hAddress, hFails] at hSent
  · obtain ⟨_, _, _, _, -, -, -, hSends⟩ :=
      exists_sends_of_connect hLoad hRequest hConnect hContract hLetters hLength
    exact hSends.asks hSent

/-- Whatever is sent is sent below the base that is resolved, for the contract that
is resolved. -/
theorem asks_of_mem_sent (hLoad : Settings.load s.environment s.settings = (loaded, none))
    (hRequest : Request.ofWords s.words = .query choice operation fields)
    (hUrl : choice.resolvedUrl loaded = b.slashed slashes)
    (hContract : choice.resolvedContract? loaded = some contract)
    (hLetters : ∀ c ∈ contract, Percent.isLetterOrDigit c = true) {url : Url}
    (hSent : url ∈ (run s).sent) : ∃ e, b.Asks contract e url :=
  asks_of_connect hLoad hRequest (connect_nodeUrl hUrl) hContract hLetters hSent

/-- Without a contract a query command reports that, and sends nothing. -/
theorem run_of_missing (hLoad : Settings.load s.environment s.settings = (loaded, none))
    (hRequest : Request.ofWords s.words = .query choice operation fields)
    (hMissing : choice.resolvedContract? loaded = none) :
    run s = ⟨.exit 1, [], errorText ["Error: " ++ missingContractMessage s.home], []⟩ := by
  rw [run_of_load hLoad hRequest, runQuery, contract?_eq, hMissing]
  rfl

/-- A query command asks what a library client with the same settings asks. If
the settings cannot be loaded, it does nothing. -/
theorem run_resolves (hRequest : Request.ofWords s.words = .query choice operation fields)
    {fault? : Option Settings.Fault}
    (hLoad : Settings.load s.environment s.settings = (loaded, fault?)) :
    match fault? with
    | some fault => run s = ⟨.crash (.settings fault), [], [], []⟩
    | none => Resolves s choice operation fields loaded := by
  cases fault? with
  | some fault => simp only [run, hLoad]
  | none =>
      refine ⟨?_, ?_, fun b slashes contract hUrl hContract hLetters url hSent => ?_,
        fun b slashes contract hUrl hContract hLetters hLength => ?_,
        run_of_missing hLoad hRequest, fun hMissing hPlain hFree => ?_⟩
      · obtain ⟨c, chosen, name, words, hStarts, hName, hQuery⟩ := exists_command hRequest
        obtain ⟨rfl, -⟩ := request_eq_query hQuery
        exact ⟨chosen, name, words, hStarts, hName⟩
      · intro chosen name words hStarts hName
        obtain ⟨c, hc⟩ := Option.isSome_iff_exists.mp hName
        rw [ofWords_of_command hStarts hc] at hRequest
        obtain ⟨-, rfl, -⟩ := request_eq_query hRequest
        exact ⟨fun _ hLast => hLast.value?_eq, fun _ hLast => hLast.value?_eq⟩
      · exact asks_of_mem_sent hLoad hRequest hUrl hContract hLetters hSent
      · exact exists_sends hLoad hRequest hUrl hContract hLetters hLength
      · rw [run_of_missing hLoad hRequest hMissing]
        exact missing_report s hPlain hFree

end

/-- The option is empty, so the variable counts; the contract stands in the file. -/
theorem run_resolves_minter :
    ∃ url, (run ⟨["--lcd-url", "", "minter"], [("DEMURRAGE_LCD_URL", "https://lcd//")],
        .file ((Text.ofString "DEMURRAGE_CONTRACT=wasm1x\n").flatMap Utf8.encodeCodePoint), "/root",
        .error (.endOfInput [])⟩).sent = [url] ∧ url.scheme = Text.ofString "https" ∧
      url.rawPath = Text.ofString
        "/cosmwasm/wasm/v1/contract/wasm1x/smart/eyJtaW50ZXIiOnt9fQ%3D%3D" := by
  have hHost : Url.IsHost (Text.ofString "lcd") :=
    .ascii (by decide) (by decide) (by decide) fun hMarked => absurd hMarked (by decide)
  let b : Node.Base := ⟨"https", "lcd", [], [], .inr rfl, hHost, .absent, by decide, by decide⟩
  have hRequest : Request.ofWords ["--lcd-url", "", "minter"] =
      .query ⟨some [], none, false⟩ .minter [] := by rfl
  let loaded : Environment :=
    [("DEMURRAGE_LCD_URL", "https://lcd//"), ("DEMURRAGE_CONTRACT", "wasm1x")]
  have hLoad : Settings.load [("DEMURRAGE_LCD_URL", "https://lcd//")]
      (.file ((Text.ofString "DEMURRAGE_CONTRACT=wasm1x\n").flatMap Utf8.encodeCodePoint)) =
        (loaded, none) := by
    decide +kernel
  have hEncode : Node.encodeQuery (.object [("minter", .object [])]) =
      .ok (Text.ofString "eyJtaW50ZXIiOnt9fQ%3D%3D") := by
    decide
  have hBase : (Node.baseText "https" "lcd" [] []).length ≤ Url.lengthLimit := by decide
  have hPath : (Node.frontPath [] ++ Node.smartPath "wasm1x" "eyJtaW50ZXIiOnt9fQ%3D%3D").length ≤
      Url.lengthLimit := by
    decide
  have hResolves := @run_resolves ⟨_, _, _, "/root", .error (.endOfInput [])⟩ _ _ _ loaded hRequest
    none hLoad
  obtain ⟨_, _, _, _, -, hAsks, hWritten, hSends⟩ :=
    hResolves.asks b 2 "wasm1x" rfl rfl (by decide) hBase
  cases hAsks
  cases hWritten
  rw [Node.Base.Sends, hEncode] at hSends
  obtain ⟨url, hSent, hAsked⟩ := (if_pos hPath).mp hSends
  exact ⟨url, hSent, hAsked.scheme, hAsked.path⟩

end DemurrageToken.CommandLine
