import DemurrageToken.Proofs.CommandWords
import DemurrageToken.Proofs.ContractCalls
import DemurrageToken.Proofs.Integers

/-! What command lines ask for, whatever the arrangement of their words. The rows
name commands, options, tags and fields once more, without the signatures that
the commands themselves are made from. -/
namespace DemurrageToken.CommandLine

/-! ### Commands -/

/-- A command with its arguments: its name, the operation that it asks, the
options that take a value, the tag of the query, and the fields that the
arguments make. -/
inductive Row :
    Text → Operation → List Text → List OptionName → Text → Entries Json → Prop where
  | balance (address : Text) :
      Row "balance" .balance [address] [] "balance" [("address", .string address)]
  | allowance (owner spender : Text) :
      Row "allowance" .allowance [owner, spender] [] "allowance"
        [("owner", .string owner), ("spender", .string spender)]
  | allAllowances (owner : Text) :
      Row "all-allowances" .allAllowances [owner] [.startAfter, .limit] "all_allowances"
        [("owner", .string owner)]
  | allAccounts : Row "all-accounts" .allAccounts [] [.startAfter, .limit] "all_accounts" []
  | tokenInfo : Row "token-info" .tokenInfo [] [] "token_info" []
  | minter : Row "minter" .minter [] [] "minter" []
  | demurrageAmount : Row "demurrage-amount" .demurrageAmount [] [] "demurrage_amount" []
  | taxLevel : Row "tax-level" .taxLevel [] [] "tax_level" []
  | sinkAddress : Row "sink-address" .sinkAccount [] [] "sink_account" []

/-- The fields that options make, each present if it is given, empty or zero as
it may be. -/
def pageFields (start? : Option Text) (limit? : Option Int) : Entries Json :=
  (start?.map fun start => (Text.ofString "start_after", Json.string start)).toList ++
    (limit?.map fun n => (Text.ofString "limit", Json.int n)).toList

/-- The fields of a paged query, null where they are not given. -/
def pageSlots (start? : Option Text) (limit? : Option Int) : List (Text × Slot) :=
  [("start_after", .unlessNull ((start?.map Json.string).getD .null)),
    ("limit", .unlessNull ((limit?.map Json.int).getD .null))]

/-- The fields of a page are those of the options that were given. -/
theorem written_pageFields (start? : Option Text) (limit? : Option Int) :
    Written (pageSlots start? limit?) (pageFields start? limit?) := by
  cases start? with
  | none => cases limit? with
    | none => exact .null (.null .nil)
    | some n => exact .null (.unlessNull (by simp) .nil)
  | some start => cases limit? with
    | none => exact .unlessNull (by simp) (.null .nil)
    | some n => exact .unlessNull (by simp) (.unlessNull (by simp) .nil)

namespace Row

variable {name tag : Text} {operation : Operation} {arguments : List Text}
  {valued : List OptionName} {fields : Entries Json}

theorem named?_eq (h : Row name operation arguments valued tag fields) :
    Command.named? name = some (.query operation) := by
  cases h <;> decide

theorem options_eq (h : Row name operation arguments valued tag fields) :
    (Command.query operation).options = valued ++ [.help] := by
  cases h <;> decide

theorem argumentFields_eq (h : Row name operation arguments valued tag fields) :
    argumentFields (Command.query operation).arguments arguments = .ok fields := by
  cases h <;> rfl

theorem valued_cases (h : Row name operation arguments valued tag fields) :
    valued = [] ∨ valued = [.startAfter, .limit] := by
  cases h <;> first | exact .inl rfl | exact .inr rfl

/-- The fields of a row, with those of its options, are what its query asks. -/
theorem exists_asks (h : Row name operation arguments valued tag fields) {start? : Option Text}
    {limit? : Option Int} (hNone : valued = [] → start? = none ∧ limit? = none) :
    ∃ values slots,
      operation.parameters.bind ⟨[], fields ++ pageFields start? limit?⟩ = some values ∧
      Asks operation values none tag slots ∧
      Written slots (fields ++ pageFields start? limit?) := by
  cases h with
  | allAllowances owner =>
      have hWritten := written_pageFields start? limit?
      refine ⟨_, _, ?_, .allAllowances (.string owner) _ _, .unlessNull (by simp) hWritten⟩
      cases start? <;> cases limit? <;> rfl
  | allAccounts =>
      refine ⟨_, _, ?_, .allAccounts _ _, written_pageFields start? limit?⟩
      cases start? <;> cases limit? <;> rfl
  | balance address =>
      obtain ⟨rfl, rfl⟩ := hNone rfl
      exact ⟨_, _, rfl, .balance _, .unlessNull (by simp) .nil⟩
  | allowance owner spender =>
      obtain ⟨rfl, rfl⟩ := hNone rfl
      exact ⟨_, _, rfl, .allowance _ _, .unlessNull (by simp) (.unlessNull (by simp) .nil)⟩
  | tokenInfo | minter | demurrageAmount | taxLevel | sinkAddress =>
      obtain ⟨rfl, rfl⟩ := hNone rfl
      exact ⟨_, _, rfl, by constructor, .nil⟩

/-- The values of the fields are the arguments. -/
theorem mem_fields (h : Row name operation arguments valued tag fields) {v : Json}
    (hv : v ∈ fields.map Prod.snd) : ∃ t ∈ arguments, v = .string t := by
  cases h with
  | balance address => exact ⟨address, by simp, by simpa using hv⟩
  | allAllowances owner => exact ⟨owner, by simp, by simpa using hv⟩
  | allowance owner spender =>
      rcases List.mem_pair.mp hv with rfl | rfl
      · exact ⟨owner, by simp, rfl⟩
      · exact ⟨spender, by simp, rfl⟩
  | _ => cases hv

end Row

/-! ### Requests -/

theorem Arranged.given_eq_nil {words others : List Text} {given : List (OptionName × Text)}
    (h : Arranged [] words given others) : given = [] :=
  List.eq_nil_iff_forall_not_mem.mpr fun entry hEntry =>
    List.not_mem_nil (h.mem_options entry hEntry)

theorem Last.eq_none {o : OptionName} {value? : Option Text} (h : Last [] o value?) :
    value? = none := by
  cases h with
  | absent => rfl
  | last hGiven _ => simp at hGiven

/-- The options for pages become fields where they are given, the limit as an
integer. -/
theorem optionFields_page {w : Words} {start? limitText? : Option Text} {limit? : Option Int}
    (hStart : w.value? .startAfter = start?) (hLimit : w.value? .limit = limitText?)
    (hInteger : Option.Rel Text.IsDecimal limitText? limit?) :
    optionFields w [.startAfter, .limit, .help] = .ok (pageFields start? limit?) := by
  have hLimitFields : optionFields w [.limit, .help] = .ok (pageFields none limit?) := by
    rw [optionFields, hLimit]
    cases hInteger with
    | none => rfl
    | some hDecimal =>
        simp only [OptionName.field?, Text.toInt?_of_isDecimal hDecimal]
        rfl
  rw [optionFields, hStart, hLimitFields]
  cases start? <;> rfl

/-- A command line that starts a command: options of the program, the name of the
command, and words that are left to it. -/
inductive Starts : List Text → List (OptionName × Text) → Text → List Text → Prop where
  | plain {before words : List Text} {chosen : List (OptionName × Text)} {name : Text}
      (hBefore : Arranged [.lcdUrl, .contract, .verbose] before chosen []) :
      Starts (before ++ name :: words) chosen name words
  /-- A mark ends the options of the program. -/
  | marked {before words : List Text} {chosen : List (OptionName × Text)} {name : Text}
      (hBefore : Arranged [.lcdUrl, .contract, .verbose] before chosen []) :
      Starts (before ++ Text.ofString "--" :: name :: words) chosen name words

theorem plain_program : ∀ o ∈ [OptionName.lcdUrl, .contract, .verbose], o ∈ programOptions := by
  decide

/-- The words after the name of a command are left to the command. -/
theorem ofWords_of_command {line words : List Text} {chosen : List (OptionName × Text)}
    {name : Text} (hStarts : Starts line chosen name words) {c : Command}
    (hName : Command.named? name = some c) :
    Request.ofWords line = c.request (.ofWords ⟨chosen, name :: words⟩) words := by
  have hHeads : ∀ c ∈ Command.all, c.name.head? ≠ some (.scalar '-') := by decide
  have hHead : name.head? ≠ some (.scalar '-') := by
    have hFound := List.find?_some hName
    rw [← of_decide_eq_true hFound]
    exact hHeads c (List.mem_of_find?_eq_some hName)
  have hDivide : Words.divide programOptions false line = .ok ⟨chosen, name :: words⟩ := by
    cases hStarts with
    | plain hBefore =>
        rw [Words.divide_of_arranged plain_program hBefore (.inr rfl), Words.divide_other hHead]
        simp [Except.map]
    | marked hBefore =>
        rw [Words.divide_of_arranged plain_program hBefore (.inr rfl)]
        simp [Words.divide, Except.map]
  have hEager : Words.eager? ⟨chosen, name :: words⟩ = none := by
    cases hStarts with
    | plain hBefore | marked hBefore => exact hBefore.eager?_eq_none (by decide) _
  rw [Request.ofWords.eq_def]
  split
  · next hNil =>
      rw [Words.divide] at hDivide
      cases hDivide
  · simp only [hDivide, hEager, hName]

/-- However the words are arranged, they ask the query of their row for the
fields of the arguments and of the options. -/
theorem ofWords_of_row {name tag : Text} {operation : Operation} {arguments : List Text}
    {valued : List OptionName} {fields : Entries Json}
    (hRow : Row name operation arguments valued tag fields)
    {line words : List Text} {chosen given : List (OptionName × Text)}
    (hStarts : Starts line chosen name words) (hWords : Arranged valued words given arguments)
    {start? limitText? : Option Text} {limit? : Option Int}
    (hStart : Last given .startAfter start?) (hLimit : Last given .limit limitText?)
    (hInteger : Option.Rel Text.IsDecimal limitText? limit?) :
    ∃ choice, Request.ofWords line =
        .query choice operation (fields ++ pageFields start? limit?) ∧
      (∀ value?, Last chosen .lcdUrl value? → choice.lcdUrl = value?) ∧
      ∀ value?, Last chosen .contract value? → choice.contract = value? := by
  have hValued : ∀ o ∈ valued, o ∈ (Command.query operation).options ∧ o.isEager = false := by
    rw [hRow.options_eq]
    rcases hRow.valued_cases with rfl | rfl <;> decide
  have hDivide : Words.divide (Command.query operation).options true words =
      .ok ⟨given, arguments⟩ := by
    have hWhole := Words.divide_of_arranged (fun o ho => (hValued o ho).1) hWords (.inl rfl) []
    simpa [Words.divide, Except.map] using hWhole
  have hEager := hWords.eager?_eq_none (fun o ho => (hValued o ho).2) arguments
  have hOptions : optionFields ⟨given, arguments⟩ (Command.query operation).options =
      .ok (pageFields start? limit?) := by
    rw [hRow.options_eq]
    rcases hRow.valued_cases with rfl | rfl
    · obtain rfl := hWords.given_eq_nil
      obtain rfl := hStart.eq_none
      obtain rfl := hLimit.eq_none
      cases hInteger
      rfl
    · exact optionFields_page (Last.value?_eq hStart) (Last.value?_eq hLimit) hInteger
  refine ⟨.ofWords ⟨chosen, name :: words⟩, ?_, fun _ hLast => hLast.value?_eq,
    fun _ hLast => hLast.value?_eq⟩
  rw [ofWords_of_command hStarts hRow.named?_eq]
  simp only [Command.request, hDivide, hEager, hOptions, hRow.argumentFields_eq, Except.ok_bind]
  rfl

/-! ### Requests without a query -/

/-- Whether a request asks the contract. -/
def Request.IsQuery : Request → Prop
  | query .. => True
  | help _ | version | nothing | misuse .. | info _ => False

theorem Request.IsQuery.of_eq {request : Request} {choice : Choice} {operation : Operation}
    {fields : Entries Json} (h : request = .query choice operation fields) : request.IsQuery := by
  rw [h]
  trivial

theorem not_isQuery_eagerRequest (page : Page) (o : OptionName) :
    ¬(eagerRequest page o).IsQuery := by
  cases o <;> exact id

theorem not_isQuery_info (choice : Choice) (words : List Text) :
    ¬(Command.info.request choice words).IsQuery := by
  rw [Command.request]
  cases Words.divide Command.info.options true words with
  | error misuse => exact id
  | ok w =>
      dsimp only
      cases w.eager? with
      | some o => exact not_isQuery_eagerRequest _ o
      | none =>
          dsimp only
          split
          · exact id
          · exact id
          · next hInfo => cases hInfo

/-- An eager option before the command leaves no query. -/
theorem not_isQuery_of_eager {before : List Text} {chosen : List (OptionName × Text)}
    (hBefore : Arranged [.lcdUrl, .contract, .verbose] before chosen []) {o : OptionName}
    (ho : o ∈ programOptions) (hEager : o.isEager = true) (words : List Text) :
    ¬(Request.ofWords (before ++ o.long :: words)).IsQuery := by
  rw [Request.ofWords.eq_def]
  split
  · exact id
  · cases hDivide : Words.divide programOptions false (before ++ o.long :: words) with
    | error misuse => exact id
    | ok w =>
        obtain ⟨found, hFound⟩ :=
          Words.eager?_of_divide plain_program hBefore (.inr rfl) ho hEager hDivide
        simp only [hFound]
        exact not_isQuery_eagerRequest _ found

/-- A command that is asked for help asks nothing else. -/
theorem not_isQuery_of_help {c : Command} {words others : List Text}
    {given : List (OptionName × Text)} (hWords : Arranged c.options words given others)
    (choice : Choice) (rest : List Text) :
    ¬(c.request choice (words ++ OptionName.help.long :: rest)).IsQuery := by
  have hHelp : OptionName.help ∈ c.options := by simp [Command.options, OptionName.field?]
  rw [Command.request]
  cases hDivide : Words.divide c.options true (words ++ OptionName.help.long :: rest) with
  | error misuse => exact id
  | ok w =>
      obtain ⟨found, hFound⟩ :=
        Words.eager?_of_divide (fun _ => id) hWords (.inl rfl) hHelp rfl hDivide
      simp only [hFound]
      exact not_isQuery_eagerRequest _ found

/-! ### Queries of any command line -/

/-- The fields of arguments have the names that the command gives them. -/
theorem names_argumentFields {names words : List Text} {fields : Entries Json}
    (h : argumentFields names words = .ok fields) : fields.map Prod.fst = names := by
  induction names generalizing words fields with
  | nil =>
      cases words with
      | nil =>
          cases h
          rfl
      | cons => cases h
  | cons name names ih =>
      cases words with
      | nil => cases h
      | cons word words =>
          obtain ⟨rest, hRest, rfl⟩ := Except.map_eq_ok_iff.mp h
          rw [List.map_cons, ih hRest]

/-- The fields of options have names that belong to options of the command. -/
theorem names_optionFields {w : Words} {options : List OptionName} {fields : Entries Json}
    (h : optionFields w options = .ok fields) :
    ∀ name ∈ fields.map Prod.fst, ∃ o ∈ options, o.field? = some name := by
  induction options generalizing fields with
  | nil =>
      cases h
      exact fun name hName => absurd hName List.not_mem_nil
  | cons o options ih =>
      have hMore : ∀ {rest : Entries Json}, optionFields w options = .ok rest →
          ∀ name ∈ rest.map Prod.fst, ∃ p ∈ o :: options, p.field? = some name := by
        intro rest hRest name hName
        obtain ⟨p, hp, hField⟩ := ih hRest name hName
        exact ⟨p, List.mem_cons_of_mem _ hp, hField⟩
      have hFirst : ∀ {field : Text} {v : Json}, o.field? = some field →
          (optionFields w options).map ((field, v) :: ·) = .ok fields →
          ∀ name ∈ fields.map Prod.fst, ∃ p ∈ o :: options, p.field? = some name := by
        intro field v hField hFields
        obtain ⟨rest, hRest, rfl⟩ := Except.map_eq_ok_iff.mp hFields
        exact List.forall_mem_cons.mpr ⟨⟨o, List.mem_cons_self .., hField⟩, hMore hRest⟩
      rw [optionFields] at h
      split at h
      · next field value hField _ =>
          split at h
          · split at h
            · exact hFirst hField h
            · cases h
          · exact hFirst hField h
      · exact hMore h

/-- What the request of a command is made from, if it is a query. -/
theorem request_eq_query {c : Command} {choice chosen : Choice} {words : List Text}
    {operation : Operation} {fields : Entries Json}
    (h : c.request choice words = .query chosen operation fields) :
    c = .query operation ∧ chosen = choice ∧ ∃ w arguments options,
      optionFields w c.options = .ok options ∧
      argumentFields c.arguments w.others = .ok arguments ∧ fields = arguments ++ options := by
  rw [Command.request] at h
  cases hDivide : Words.divide c.options true words with
  | error misuse => simp [hDivide] at h
  | ok w =>
      simp only [hDivide] at h
      cases hEager : w.eager? with
      | some o =>
          simp only [hEager] at h
          exact absurd (.of_eq h) (not_isQuery_eagerRequest (.command c) o)
      | none =>
          simp only [hEager] at h
          split at h
          · cases h
          · cases h
          · next values operation' hFields =>
              obtain ⟨options, hOptions, hRest⟩ := Except.bind_eq_ok_iff.mp hFields
              obtain ⟨arguments, hArguments, hValues⟩ := Except.bind_eq_ok_iff.mp hRest
              cases hValues
              cases h
              exact ⟨rfl, rfl, w, arguments, options, hOptions, hArguments, rfl⟩

/-- The fields of a query command fit the parameters of its operation. -/
theorem exists_bind {operation : Operation} (hLayer : operation.layer = .query)
    {arguments options : Entries Json}
    (hArguments : arguments.map Prod.fst = (Command.query operation).arguments)
    (hOptions : ∀ name ∈ options.map Prod.fst,
      ∃ o ∈ (Command.query operation).options, o.field? = some name) :
    ∃ values, operation.parameters.bind ⟨[], arguments ++ options⟩ = some values := by
  have hParameters : operation.parameters = operation.fields := by
    rw [Operation.parameters.eq_def, hLayer]
  -- Required fields are arguments and optional ones are options; that the two
  -- differ in their names does not matter here.
  have hNames : ∀ name ∈ (arguments ++ options).map Prod.fst,
      name ∈ operation.fields.map (·.name) := by
    intro name hName
    rw [List.map_append, List.mem_append, hArguments] at hName
    rcases hName with hName | hName
    · obtain ⟨p, hp, rfl⟩ := List.mem_map.mp hName
      exact List.mem_map_of_mem (List.mem_of_mem_filter hp)
    · obtain ⟨o, ho, hField⟩ := hOptions name hName
      have hOptional := (List.mem_filter.mp ho).2
      rw [hField] at hOptional
      exact List.mem_map.mpr ⟨_, List.contains_iff_mem.mp hOptional, rfl⟩
  have hValues : ∀ p ∈ operation.fields,
      (Signature.namedValue? (arguments ++ options) p).isSome = true := by
    intro p hp
    apply Signature.isSome_namedValue?
    cases hOptional : p.optional with
    | true => exact .inl rfl
    | false =>
        right
        rw [List.map_append, hArguments]
        have hRequired : p ∈ operation.fields.filter (!·.optional) :=
          List.mem_filter.mpr ⟨hp, by simp [hOptional]⟩
        exact List.mem_append_left _ (List.mem_map_of_mem hRequired)
  obtain ⟨values, hBound⟩ := Signature.exists_values hValues
  refine ⟨values, ?_⟩
  rw [hParameters]
  exact Signature.bind_eq_some_iff.mpr ⟨⟨Nat.zero_le _, hNames⟩, values, hBound, rfl⟩

/-- An unknown command asks for no query. -/
theorem not_isQuery_unknownCommandRequest (name : Text) (words : List Text) :
    ¬(unknownCommandRequest name words).IsQuery := by
  rw [unknownCommandRequest]
  split
  · exact id
  · split
    · exact not_isQuery_eagerRequest _ _
    · exact id

/-- A query is asked by a command that the words start, however they do. -/
theorem exists_command {line : List Text} {choice : Choice} {operation : Operation}
    {fields : Entries Json} (h : Request.ofWords line = .query choice operation fields) :
    ∃ c chosen name words, Starts line chosen name words ∧ Command.named? name = some c ∧
      c.request (.ofWords ⟨chosen, name :: words⟩) words = .query choice operation fields := by
  rw [Request.ofWords.eq_def] at h
  split at h
  · cases h
  · cases hDivide : Words.divide programOptions false line with
    | error misuse => simp [hDivide] at h
    | ok w =>
        simp only [hDivide] at h
        split at h
        · exact absurd (.of_eq h) (not_isQuery_eagerRequest _ _)
        · cases h
        · next name words hEager hOthers =>
            obtain ⟨before, rest, rfl, hRest, hBefore⟩ := Words.exists_arranged hDivide hEager
            have hStarts : Starts (before ++ rest) w.given name words := by
              rw [hOthers] at hRest
              rcases hRest with rfl | rfl
              · exact .plain hBefore
              · exact .marked hBefore
            cases hName : Command.named? name with
            | some c =>
                simp only [hName] at h
                exact ⟨c, w.given, name, words, hStarts, hName, h⟩
            | none =>
                simp only [hName] at h
                exact absurd (.of_eq h) (not_isQuery_unknownCommandRequest name words)

/-- Whatever the words are, the fields of the query that they ask have a row. -/
theorem exists_asks_of_request {line : List Text} {choice : Choice} {operation : Operation}
    {fields : Entries Json} (h : Request.ofWords line = .query choice operation fields) :
    ∃ values tag slots, operation.parameters.bind ⟨[], fields⟩ = some values ∧
      Asks operation values none tag slots := by
  obtain ⟨c, chosen, name, words, -, hName, hRequest⟩ := exists_command h
  obtain ⟨rfl, -, w, arguments, options, hOptions, hArguments, rfl⟩ := request_eq_query hRequest
  have hLayers : ∀ operation, Command.query operation ∈ Command.all →
      operation.layer = .query := by
    intro operation
    cases operation <;> decide
  have hLayer := hLayers operation (List.mem_of_find?_eq_some hName)
  obtain ⟨values, hBind⟩ := exists_bind hLayer (names_argumentFields hArguments)
    (names_optionFields hOptions)
  obtain ⟨sender?, tag, slots, hAsks⟩ := exists_asks (Signature.length_of_bind hBind)
  have hSender : sender? = none := by
    cases hAsks <;> first | rfl | cases hLayer
  exact ⟨values, tag, slots, hBind, hSender ▸ hAsks⟩

end DemurrageToken.CommandLine
