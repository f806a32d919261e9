import DemurrageToken.Proofs.CommandSettings
import DemurrageToken.Proofs.PlainBases

/-! What `info` shows, and what the queries with the same options do. They use
what is shown; where nothing is shown they ask the environment, so that an
option that is given empty hides the value that they use. -/
namespace DemurrageToken

/-! ### Plain text -/

namespace Json

/-- An escape is plain, so that the terminal shows it as it is. -/
theorem isPlain_unicodeEscape {n : Nat} (h : n < 0x10000) : (unicodeEscape n).IsPlain := by
  have hDigits : ∀ k < 16, CodePoint.scalar k.digitChar ≠ .scalar '\x1b' := by decide
  have hMark : Text.IsPlain "\\u" := by decide
  refine hMark.append fun c hc => ?_
  rw [hex_four h] at hc
  simp only [Text.ofChars, List.map_cons, List.map_nil, List.mem_cons, List.not_mem_nil,
    or_false] at hc
  rcases hc with rfl | rfl | rfl | rfl <;> exact ⟨hDigits _ (by omega), rfl⟩

/-- Beyond ASCII nothing is written as it is. -/
theorem isPlain_escape (c : CodePoint) : (escape true c).IsPlain := by
  have hShorts : ∀ entry ∈ Grammar.shortEscapes, Text.IsPlain [.scalar '\\', .scalar entry.1] := by
    decide
  have hMax := c.val_le
  rcases escape_cases true c with ⟨letter, meaning, hShort, -, hEq⟩ |
    ⟨hControl, hAscii, -, -, hEq⟩ | ⟨hVal, hEq⟩ | ⟨hVal, hEq⟩
  · rw [hEq]
    exact hShorts _ hShort
  · rw [hEq]
    intro d hd
    rw [List.mem_singleton.mp hd]
    refine ⟨?_, ?_⟩
    · rintro rfl
      exact absurd hControl (by decide)
    · have hLast := hAscii rfl
      rw [← Bool.not_eq_true, CodePoint.isSurrogate_iff]
      omega
  · exact hEq ▸ isPlain_unicodeEscape hVal
  · exact hEq ▸ (isPlain_unicodeEscape (by omega)).append (isPlain_unicodeEscape (by omega))

/-- A string that is written in ASCII is plain, whatever it holds. -/
theorem isPlain_writeString (t : Text) : (writeString true t).IsPlain := by
  have hQuote : Text.IsPlain [.scalar '"'] := by decide
  have hBody : Text.IsPlain (t.flatMap (escape true)) := by
    intro c hc
    obtain ⟨d, -, hMem⟩ := List.mem_flatMap.mp hc
    exact isPlain_escape d c hMem
  exact hQuote.append (hBody.append hQuote)

end Json

/-- The fee is shown in plain text, whatever the environment has for its parts. -/
theorem Fee.isPlain_write (environment : Environment) :
    ((Fee.ofEnvironment environment).toJson.write .spaced).IsPlain := by
  have hText : ∀ denom amount gas : Text,
      (Fee.toJson ⟨[⟨.string denom, .string amount⟩], .string gas⟩).write .spaced =
        "\x7b\"amount\": [\x7b\"denom\": " ++ (Json.writeString true denom ++ (", \"amount\": " ++
          (Json.writeString true amount ++ ("\x7d], \"gas\": " ++
            (Json.writeString true gas ++ "\x7d"))))) := by
    intro denom amount gas
    simp only [Json.write, Fee.toJson, Coin.toJson, Json.writeAt, Json.writeMembers,
      Json.writeElements, Json.bracket, Text.join, List.map_cons, List.map_nil, List.append_assoc,
      List.cons_append, List.nil_append]
    rfl
  have hMarks : Text.IsPlain "\x7b\"amount\": [\x7b\"denom\": " ∧ Text.IsPlain ", \"amount\": " ∧
      Text.IsPlain "\x7d], \"gas\": " ∧ Text.IsPlain "\x7d" := by
    decide
  have hStrings := Json.isPlain_writeString
  rw [Fee.ofEnvironment, Fee.ofTexts, hText]
  exact hMarks.1.append ((hStrings _).append (hMarks.2.1.append ((hStrings _).append
    (hMarks.2.2.1.append ((hStrings _).append hMarks.2.2.2)))))

namespace CommandLine

/-! ### Printing -/

/-- Plain lines are printed as they are. -/
theorem printed_of_plain {lines : List Text} (h : ∀ line ∈ lines, line.IsPlain) (errors : Text)
    (sent : List Url) :
    Report.printed errors sent lines =
      ⟨.exit 0, lines.flatMap (· ++ Text.ofString "\n"), errors, sent⟩ := by
  have hWrite : writeLines lines = (lines.flatMap (· ++ Text.ofString "\n"), none) := by
    induction lines with
    | nil => rfl
    | cons line lines ih =>
        have hEnd : Text.IsPlain "\n" := by decide
        have hLine := h line (List.mem_cons_self ..)
        have hShown := hLine.append hEnd
        have hRun : Utf8.surrogateRun? 0 (line ++ Text.ofString "\n") = none :=
          (Utf8.surrogateRun?_eq_none_iff _ _).mpr fun c hc => (hShown c hc).2
        simp only [writeLines, stripSequences_of_plain fun c hc => (hLine c hc).1, hRun,
          ih fun other hOther => h other (List.mem_cons_of_mem _ hOther), List.flatMap_cons]
  rw [Report.printed, hWrite]

/-- The lines that show a URL, a contract and a fee. -/
def shownLines (home url contract : Text) (fee : Fee) : List Text :=
  ["=== Demurrage Client ===", [], "  Version:  0.1.0", "  Env file: " ++ settingsPath home,
    "  LCD URL:  " ++ url, "  Contract: " ++ contract,
    "  Exec fee: " ++ fee.toJson.write .spaced, []]

/-- All lines are plain if the home directory, the URL and the contract are. -/
theorem isPlain_shownLines {home url contract : Text} (hHome : home.IsPlain) (hUrl : url.IsPlain)
    (hContract : contract.IsPlain) (environment : Environment) :
    ∀ line ∈ shownLines home url contract (.ofEnvironment environment), line.IsPlain := by
  have hLiterals : Text.IsPlain "=== Demurrage Client ===" ∧ Text.IsPlain [] ∧
      Text.IsPlain "  Version:  0.1.0" ∧ Text.IsPlain "  Env file: " ∧
      Text.IsPlain "/.demurrage/.env" ∧ Text.IsPlain "  LCD URL:  " ∧
      Text.IsPlain "  Contract: " ∧ Text.IsPlain "  Exec fee: " := by
    decide
  obtain ⟨hTitle, hEmpty, hVersion, hFile, hPath, hUrlMark, hContractMark, hFeeMark⟩ := hLiterals
  intro line hLine
  simp only [shownLines, List.mem_cons, List.not_mem_nil, or_false] at hLine
  rcases hLine with rfl | rfl | rfl | rfl | rfl | rfl | rfl | rfl
  · exact hTitle
  · exact hEmpty
  · exact hVersion
  · exact hFile.append (hHome.append hPath)
  · exact hUrlMark.append hUrl
  · exact hContractMark.append hContract
  · exact hFeeMark.append (Fee.isPlain_write environment)
  · exact hEmpty

/-- What `info` prints. -/
def infoText (home url contract : Text) (fee : Fee) : Text :=
  (shownLines home url contract fee).flatMap (· ++ Text.ofString "\n")

/-! ### What is shown and what is used -/

/-- The contract that is shown, if any. -/
def Choice.shownContract? (c : Choice) (environment : Environment) : Option Text :=
  (c.chosenContract? environment).filter (· ≠ [])

/-- What is shown are the options as they are stored, with the settings behind them. -/
theorem infoLines_eq (c : Choice) (environment : Environment) (home : Text) :
    infoLines c environment home =
      shownLines home (c.nodeUrl environment) ((c.shownContract? environment).getD "(not set)")
        (.ofEnvironment environment) := by
  rw [infoLines, Choice.shownContract?]
  rcases c.chosenContract? environment with _ | _ | ⟨first, rest⟩ <;> rfl

/-- The URL that is shown is the option. If there is none it is not empty. -/
theorem nodeUrl_cases (c : Choice) (environment : Environment) :
    c.lcdUrl = some (c.nodeUrl environment) ∨ c.lcdUrl = none ∧ c.nodeUrl environment ≠ [] ∧
      (environment.lookup (Text.ofString "DEMURRAGE_LCD_URL") = some (c.nodeUrl environment) ∨
        c.nodeUrl environment = Environment.defaultNodeUrl) := by
  rw [Choice.nodeUrl]
  cases c.lcdUrl with
  | some url => exact .inl rfl
  | none =>
      right
      cases hVariable : environment.lookup (Text.ofString "DEMURRAGE_LCD_URL") with
      | none => exact ⟨rfl, by decide, .inr rfl⟩
      | some url =>
          cases url with
          | nil => exact ⟨rfl, by decide, .inr rfl⟩
          | cons first rest => exact ⟨rfl, List.cons_ne_nil _ _, .inl rfl⟩

theorem shownContract?_cases (c : Choice) (environment : Environment) :
    c.shownContract? environment = (c.contract.filter (· ≠ [])).or
      (if c.contract = none then environment.contract? else none) := by
  rw [Choice.shownContract?, Choice.chosenContract?]
  cases c.contract with
  | some address => cases address <;> rfl
  | none =>
      rw [if_pos rfl, Environment.contract?]
      rcases environment.lookup (Text.ofString "DEMURRAGE_CONTRACT") with _ | _ | ⟨first, rest⟩ <;>
        rfl

/-- Queries use the contract that is shown, or that of the environment. -/
theorem resolvedContract?_eq_or (c : Choice) (environment : Environment) :
    c.resolvedContract? environment =
      (c.shownContract? environment).or environment.contract? := by
  rw [shownContract?_cases, Choice.resolvedContract?]
  split
  · rw [Option.or_assoc, Option.or_self]
  · rw [Option.or_none]

/-- A contract that is resolved comes from the option or from the environment. -/
theorem resolvedContract?_eq_some {c : Choice} {environment : Environment} {contract : Text}
    (h : c.resolvedContract? environment = some contract) :
    c.contract = some contract ∨
      environment.lookup (Text.ofString "DEMURRAGE_CONTRACT") = some contract := by
  rw [Choice.resolvedContract?, Option.or_eq_some_iff] at h
  rcases h with hOption | ⟨-, hVariable⟩
  · exact .inl (Option.filter_eq_some_iff.mp hOption).1
  · exact .inr (Option.filter_eq_some_iff.mp hVariable).1

/-- Queries use the URL that is shown, or that of the environment. -/
theorem connect_of_shown {choice : Choice} {loaded : Environment} {b : Node.Base} {slashes : Nat}
    (h : (if choice.nodeUrl loaded = [] then loaded.nodeUrl else choice.nodeUrl loaded) =
      b.slashed slashes) :
    Node.Client.connect loaded (some (choice.nodeUrl loaded)) Node.defaultTimeout =
      Node.Client.connect loaded (some (b.slashed slashes)) Node.defaultTimeout := by
  split at h
  · next hEmpty =>
      obtain ⟨first, rest, hBase⟩ := List.exists_cons_of_ne_nil (b.slashed_ne_nil slashes)
      have hText : Node.baseUrlText loaded (some []) =
          Node.baseUrlText loaded (some (b.slashed slashes)) := by
        simp only [Node.baseUrlText, h, hBase]
      rw [hEmpty, Node.Client.connect, Node.Client.connect, hText]
  · rw [h]

/-- The base that the environment falls back to. -/
def defaultBase : Node.Base where
  scheme := "http"
  host := "localhost"
  part := ":1317"
  segments := []
  isWebScheme := .inl rfl
  isHost := .ascii (by decide) (by decide) (by decide) fun hMarked => absurd hMarked (by decide)
  isPortPart := @Url.IsPortPart.digits ['1', '3', '1', '7'] (by simp) (by decide)
  characters := by decide
  last := by decide

/-- The URL that is shown is empty or a base, if options and variables are. -/
theorem nodeUrl_form {choice : Choice} {loaded : Environment}
    (h : ∀ t, choice.lcdUrl = some t ∨
      loaded.lookup (Text.ofString "DEMURRAGE_LCD_URL") = some t →
        t = [] ∨ ∃ (b : Node.Base) (slashes : Nat), t = b.slashed slashes) :
    choice.nodeUrl loaded = [] ∨
      ∃ (b : Node.Base) (slashes : Nat), choice.nodeUrl loaded = b.slashed slashes := by
  rcases nodeUrl_cases choice loaded with hGiven | ⟨-, -, hVariable | hDefault⟩
  · exact h _ (.inl hGiven)
  · exact h _ (.inr hVariable)
  · exact .inr ⟨defaultBase, 0, hDefault⟩

/-- A contract of letters and digits is shown in plain text, and so is none. -/
theorem isPlain_shownContract {choice : Choice} {loaded : Environment}
    (h : ∀ contract, choice.resolvedContract? loaded = some contract →
      ∀ c ∈ contract, Percent.isLetterOrDigit c = true) :
    ((choice.shownContract? loaded).getD "(not set)").IsPlain := by
  cases hShown : choice.shownContract? loaded with
  | none => decide
  | some contract =>
      refine .of_letters (h contract ?_)
      rw [resolvedContract?_eq_or, hShown, Option.some_or]

/-! ### Queries beside `info` -/

/-- A query command with the same options, environment and settings. -/
structure QueriesLike (s q : Setting) (chosen : List (OptionName × Text)) (operation : Operation)
    (fields : Entries Json) : Prop where
  environment : q.environment = s.environment
  settings : q.settings = s.settings
  command : ∃ name words, Starts q.words chosen name words ∧
    Command.named? name = some (.query operation)
  request : ∃ choice, Request.ofWords q.words = .query choice operation fields

/-- A query command asks a contract below a base: whatever it sends goes there,
and it sends its query if that can be encoded and nothing is too long. -/
structure GoesTo (q : Setting) (operation : Operation) (fields : Entries Json) (b : Node.Base)
    (contract : Text) : Prop where
  sent : ∀ url ∈ (run q).sent, ∃ e, b.Asks contract e url
  asks : b.text.length ≤ Url.lengthLimit →
    ∃ values tag slots written, operation.parameters.bind ⟨[], fields⟩ = some values ∧
      Asks operation values none tag slots ∧ Written slots written ∧
      b.Sends contract (.object [(tag, .object written)]) (run q).sent

section

variable {s q : Setting} {loaded : Environment} {chosen : List (OptionName × Text)}
  {operation : Operation} {fields : Entries Json} {url? contract? : Option Text}

/-- Words that start a query command ask it with the options before it. -/
theorem QueriesLike.request_eq (h : QueriesLike s q chosen operation fields) :
    Request.ofWords q.words = .query (.ofWords ⟨chosen, []⟩) operation fields := by
  obtain ⟨name, words, hStarts, hName⟩ := h.command
  obtain ⟨choice, hRequest⟩ := h.request
  have hWords := hRequest
  rw [ofWords_of_command hStarts hName] at hWords
  obtain ⟨-, rfl, -⟩ := request_eq_query hWords
  exact hRequest

/-- The command that shows the configuration prints it and does nothing else. -/
theorem run_of_starts_info (hStarts : Starts s.words chosen "info" [])
    (hLoad : Settings.load s.environment s.settings = (loaded, none)) :
    run s = .printed [] [] (infoLines (.ofWords ⟨chosen, []⟩) loaded s.home) := by
  have hName : Command.named? "info" = some .info := by decide
  have hRequest : Request.ofWords s.words = .info (.ofWords ⟨chosen, []⟩) := by
    rw [ofWords_of_command hStarts hName]
    rfl
  rw [run, hLoad]
  simp only [hRequest]
  rfl

/-- `info` always prints, and the query commands with the same options use what it
shows. Where it shows an empty URL or no contract because the option is given
empty, they use those of the environment. -/
theorem run_info (hStarts : Starts s.words chosen "info" [])
    (hLoad : Settings.load s.environment s.settings = (loaded, none))
    (hUrl : Last chosen .lcdUrl url?) (hContract : Last chosen .contract contract?)
    (hUrls : ∀ t, url? = some t ∨ loaded.lookup (Text.ofString "DEMURRAGE_LCD_URL") = some t →
      t = [] ∨ ∃ (b : Node.Base) (slashes : Nat), t = b.slashed slashes)
    (hContracts : ∀ t, contract? = some t ∨
      loaded.lookup (Text.ofString "DEMURRAGE_CONTRACT") = some t →
        ∀ c ∈ t, Percent.isLetterOrDigit c = true)
    (hHome : s.home.IsPlain) :
    ∃ url shown?,
      run s = ⟨.exit 0, infoText s.home url (shown?.getD "(not set)") (.ofEnvironment loaded), [],
        []⟩ ∧
      (url = [] ↔ url? = some []) ∧
      (url ≠ [] → ∃ (b : Node.Base) (slashes : Nat), url = b.slashed slashes) ∧
      (shown? = none ↔ contract? = some [] ∨ contract? = none ∧ loaded.contract? = none) ∧
      ∀ q operation fields, QueriesLike s q chosen operation fields →
        match shown?.or loaded.contract? with
        | none => run q = ⟨.exit 1, [], errorText ["Error: " ++ missingContractMessage q.home], []⟩
        | some contract => ∀ (b : Node.Base) (slashes : Nat),
          (if url = [] then loaded.nodeUrl else url) = b.slashed slashes →
            GoesTo q operation fields b contract := by
  obtain ⟨choice, hChoice⟩ : ∃ choice, choice = Choice.ofWords ⟨chosen, []⟩ := ⟨_, rfl⟩
  have hLcdUrl : choice.lcdUrl = url? := hChoice ▸ hUrl.value?_eq
  have hOption : choice.contract = contract? := hChoice ▸ hContract.value?_eq
  have hForm := @nodeUrl_form choice loaded (hLcdUrl ▸ hUrls)
  have hUrlPlain : (choice.nodeUrl loaded).IsPlain := by
    rcases hForm with hEmpty | ⟨b, slashes, hBase⟩
    · rw [hEmpty]
      decide
    · exact hBase ▸ b.isPlain_slashed slashes
  have hShown := shownContract?_cases choice loaded
  rw [hOption] at hShown
  have hLetters : ∀ contract, choice.resolvedContract? loaded = some contract →
      ∀ c ∈ contract, Percent.isLetterOrDigit c = true := fun contract hResolved =>
    hContracts contract (hOption ▸ resolvedContract?_eq_some hResolved)
  have hShownPlain := isPlain_shownContract hLetters
  refine ⟨choice.nodeUrl loaded, choice.shownContract? loaded, ?_, ?_, hForm.resolve_left, ?_,
    ?_⟩
  · rw [run_of_starts_info hStarts hLoad, ← hChoice, infoLines_eq,
      printed_of_plain (isPlain_shownLines hHome hUrlPlain hShownPlain loaded), infoText]
  · rw [← hLcdUrl]
    rcases nodeUrl_cases choice loaded with hGiven | ⟨hNone, hNonempty, -⟩
    · rw [hGiven, Option.some_inj]
    · simp [hNone, hNonempty]
  · rw [hShown]
    rcases contract? with _ | _ | ⟨first, rest⟩ <;> simp [Option.filter]
  · intro q operation fields hQuery
    have hLoadQuery : Settings.load q.environment q.settings = (loaded, none) := by
      rw [hQuery.environment, hQuery.settings, hLoad]
    have hRequest := hChoice ▸ hQuery.request_eq
    rw [← resolvedContract?_eq_or]
    cases hResolved : choice.resolvedContract? loaded with
    | none => exact run_of_missing hLoadQuery hRequest hResolved
    | some contract =>
        intro b slashes hBase
        have hConnect := connect_of_shown hBase
        have hContractLetters := hLetters contract hResolved
        exact ⟨fun url hSent => asks_of_connect hLoadQuery hRequest hConnect hResolved
            hContractLetters hSent,
          exists_sends_of_connect hLoadQuery hRequest hConnect hResolved hContractLetters⟩

end

theorem starts_of_options (url contract name : Text) :
    Starts ["--lcd-url", url, "--contract", contract, name]
      [(.lcdUrl, url), (.contract, contract)] name [] :=
  @Starts.plain _ [] _ name (@Arranged.apart _ .lcdUrl url _ _ _ (by decide) rfl
    (@Arranged.apart _ .contract contract _ _ _ (by decide) rfl .nil))

/-- The contract is given empty: none is shown, and the variable is used. -/
theorem run_info_contract :
    let environment : Environment := [("DEMURRAGE_CONTRACT", "wasm1x")]
    let setting (command : Text) : Setting := ⟨["--lcd-url", "https://lcd//", "--contract", [],
      command], environment, .missing, "/root", .error (.endOfInput [])⟩
    ∃ url, url ≠ [] ∧ (run (setting "info")).output = infoText "/root" url "(not set)"
        (.ofEnvironment environment) ∧
      ∀ (b : Node.Base) (slashes : Nat), url = b.slashed slashes →
        GoesTo (setting "minter") .minter [] b "wasm1x" := by
  intro environment setting
  have hHost : Url.IsHost (Text.ofString "lcd") :=
    .ascii (by decide) (by decide) (by decide) fun hMarked => absurd hMarked (by decide)
  let base : Node.Base := ⟨"https", "lcd", [], [], .inr rfl, hHost, .absent, by decide, by decide⟩
  have hUrl : Last [(.lcdUrl, "https://lcd//"), (.contract, [])] .lcdUrl
      (some (Text.ofString "https://lcd//")) :=
    @Last.last _ _ [] _ _ rfl (by decide)
  have hContract : Last [(.lcdUrl, "https://lcd//"), (.contract, [])] .contract (some []) :=
    @Last.last _ _ [(.lcdUrl, "https://lcd//")] [] _ rfl (by decide)
  have hUrls : ∀ t, some (Text.ofString "https://lcd//") = some t ∨
      List.lookup (Text.ofString "DEMURRAGE_LCD_URL") environment = some t →
        t = [] ∨ ∃ (b : Node.Base) (slashes : Nat), t = b.slashed slashes := by
    intro t ht
    rcases ht with hOption | hVariable
    · exact .inr ⟨base, 2, (Option.some.inj hOption).symm⟩
    · have hAbsent : List.lookup (Text.ofString "DEMURRAGE_LCD_URL") environment = none := by decide
      rw [hAbsent] at hVariable
      cases hVariable
  have hContracts : ∀ t, some [] = some t ∨
      List.lookup (Text.ofString "DEMURRAGE_CONTRACT") environment = some t →
        ∀ c ∈ t, Percent.isLetterOrDigit c = true := by
    intro t ht
    rcases ht with hOption | hVariable
    · cases hOption
      decide
    · obtain rfl : Text.ofString "wasm1x" = t := Option.some.inj hVariable
      decide
  obtain ⟨url, shown?, hRun, hEmpty, -, hShown, hQueries⟩ :=
    @run_info (setting "info") environment _ _ _ (starts_of_options ..) rfl hUrl hContract hUrls
      hContracts (by decide)
  have hNonempty : url ≠ [] := fun h => by cases hEmpty.mp h
  obtain rfl := hShown.mpr (.inl rfl)
  refine ⟨url, hNonempty, by rw [hRun]; rfl, fun b slashes hBase => ?_⟩
  have hQuery : QueriesLike (setting "info") (setting "minter")
      [(.lcdUrl, "https://lcd//"), (.contract, [])] .minter [] :=
    ⟨rfl, rfl, ⟨"minter", [], starts_of_options .., by decide⟩, _, rfl⟩
  exact hQueries _ _ _ hQuery b slashes (by rw [if_neg hNonempty, hBase])

/-- With both options empty, `info` shows neither what a query is sent to nor the
contract that it is for. -/
theorem run_info_empty_options :
    let environment : Environment := [("DEMURRAGE_CONTRACT", "wasm1x")]
    let setting (command : Text) : Setting := ⟨["--lcd-url", [], "--contract", [], command],
      environment, .missing, "/root", .error (.endOfInput [])⟩
    (run (setting "info")).output = infoText "/root" [] "(not set)" (.ofEnvironment environment) ∧
      (run (setting "minter")).sent.map Url.write = [Text.ofString
        "http://localhost:1317/cosmwasm/wasm/v1/contract/wasm1x/smart/eyJtaW50ZXIiOnt9fQ%3D%3D"] :=
    by
  intro environment setting
  refine ⟨?_, by decide +kernel⟩
  rw [run_of_starts_info (s := setting "info") (starts_of_options ..) rfl, infoLines_eq,
    printed_of_plain (isPlain_shownLines (by decide) (by decide) (by decide) _), infoText]
  rfl

end CommandLine

end DemurrageToken
