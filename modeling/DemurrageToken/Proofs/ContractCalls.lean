import DemurrageToken.Contract.Handle
import DemurrageToken.Proofs.Signatures
import DemurrageToken.Proofs.WireForms

/-! What each operation asks of a chain client, row by row, and what its result
is in the client's answer. The rows name tags, fields and their order once more,
without the signatures that the operations themselves are made from. -/
namespace DemurrageToken

/-! ### Fields -/

/-- What a field of a call is made from. -/
inductive Slot where
  /-- As it is given, null or not. -/
  | given (v : Json)
  /-- As it is given, and left out if it is null. -/
  | unlessNull (v : Json)
  /-- The text of what is given. -/
  | amount (v : Json)
  /-- The binary form of what is given. -/
  | payload (v : Json)

/-- The fields of a message, written one after the other. -/
inductive Written : List (Text × Slot) → Entries Json → Prop where
  | nil : Written [] []
  | given {name : Text} {v : Json} {slots : List (Text × Slot)} {fields : Entries Json}
      (rest : Written slots fields) : Written ((name, .given v) :: slots) ((name, v) :: fields)
  | unlessNull {name : Text} {v : Json} {slots : List (Text × Slot)} {fields : Entries Json}
      (hv : v ≠ .null) (rest : Written slots fields) :
      Written ((name, .unlessNull v) :: slots) ((name, v) :: fields)
  | null {name : Text} {slots : List (Text × Slot)} {fields : Entries Json}
      (rest : Written slots fields) : Written ((name, .unlessNull .null) :: slots) fields
  | amount {name : Text} {v : Json} {slots : List (Text × Slot)} {fields : Entries Json}
      (hNumerals : v.HasNumerals) (rest : Written slots fields) :
      Written ((name, .amount v) :: slots) ((name, .string v.display) :: fields)
  | payload {name t : Text} {v : Json} {slots : List (Text × Slot)} {fields : Entries Json}
      (hNumerals : v.HasNumerals) (hFree : v.SurrogateFree) (hEmbed : Payload.embed v = .ok t)
      (rest : Written slots fields) :
      Written ((name, .payload v) :: slots) ((name, .string t) :: fields)

/-- A field whose text would need an integer with too many digits. -/
def Slot.IsTooLong : Slot → Prop
  | given _ | unlessNull _ => False
  | amount v | payload v => ¬v.HasNumerals

/-! ### Operations -/

/-- An operation with the values of its parameters: the sender of what is
executed, the tag, and the fields in order. -/
inductive Asks : Operation → List Json → Option Json → Text → List (Text × Slot) → Prop where
  | balance (address : Json) :
      Asks .balance [address] none "balance" [("address", .unlessNull address)]
  | allowance (owner spender : Json) :
      Asks .allowance [owner, spender] none "allowance"
        [("owner", .unlessNull owner), ("spender", .unlessNull spender)]
  | allAllowances (owner start limit : Json) :
      Asks .allAllowances [owner, start, limit] none "all_allowances"
        [("owner", .unlessNull owner), ("start_after", .unlessNull start),
          ("limit", .unlessNull limit)]
  | allAccounts (start limit : Json) :
      Asks .allAccounts [start, limit] none "all_accounts"
        [("start_after", .unlessNull start), ("limit", .unlessNull limit)]
  | tokenInfo : Asks .tokenInfo [] none "token_info" []
  | minter : Asks .minter [] none "minter" []
  | demurrageAmount : Asks .demurrageAmount [] none "demurrage_amount" []
  | taxLevel : Asks .taxLevel [] none "tax_level" []
  | sinkAccount : Asks .sinkAccount [] none "sink_account" []
  | mint (sender recipient amount : Json) :
      Asks .mint [sender, recipient, amount] (some sender) "mint"
        [("recipient", .unlessNull recipient), ("amount", .amount amount)]
  | transfer (sender recipient amount : Json) :
      Asks .transfer [sender, recipient, amount] (some sender) "transfer"
        [("recipient", .unlessNull recipient), ("amount", .amount amount)]
  | burn (sender amount : Json) :
      Asks .burn [sender, amount] (some sender) "burn" [("amount", .amount amount)]
  | burnFrom (sender owner amount : Json) :
      Asks .burnFrom [sender, owner, amount] (some sender) "burn_from"
        [("owner", .unlessNull owner), ("amount", .amount amount)]
  | increaseAllowance (sender spender amount expires : Json) :
      Asks .increaseAllowance [sender, spender, amount, expires] (some sender) "increase_allowance"
        [("spender", .unlessNull spender), ("amount", .amount amount),
          ("expires", .unlessNull expires)]
  | decreaseAllowance (sender spender amount expires : Json) :
      Asks .decreaseAllowance [sender, spender, amount, expires] (some sender) "decrease_allowance"
        [("spender", .unlessNull spender), ("amount", .amount amount),
          ("expires", .unlessNull expires)]
  | transferFrom (sender owner recipient amount : Json) :
      Asks .transferFrom [sender, owner, recipient, amount] (some sender) "transfer_from"
        [("owner", .unlessNull owner), ("recipient", .unlessNull recipient),
          ("amount", .amount amount)]
  | send (sender recipient amount msg : Json) :
      Asks .send [sender, recipient, amount, msg] (some sender) "send"
        [("recipient", .given recipient), ("amount", .amount amount), ("msg", .payload msg)]
  | sendFrom (sender owner recipient amount msg : Json) :
      Asks .sendFrom [sender, owner, recipient, amount, msg] (some sender) "send_from"
        [("owner", .given owner), ("recipient", .given recipient), ("amount", .amount amount),
          ("msg", .payload msg)]
  | updateMinter (sender minter : Json) :
      Asks .updateMinter [sender, minter] (some sender) "update_minter"
        [("new_minter", .unlessNull minter)]
  | changeSinkAddress (sender address : Json) :
      Asks .changeSinkAddress [sender, address] (some sender) "change_sink_address"
        [("address", .unlessNull address)]
  | changeTaxLevel (sender amount : Json) :
      Asks .changeTaxLevel [sender, amount] (some sender) "change_tax_level"
        [("amount", .amount amount)]

/-- Whether a field has the text that it needs before its message is put together. -/
def Slot.hasAmountText : Slot → Bool
  | given _ | unlessNull _ | payload _ => true
  | amount v => v.hasNumerals

/-- The value of a field before a payload is embedded and nulls are dropped. -/
def Slot.value : Slot → Json
  | given v | unlessNull v | payload v => v
  | amount v => .string v.display

namespace Asks

variable {operation : Operation} {values : List Json} {sender? : Option Json} {tag : Text}
  {slots : List (Text × Slot)}

theorem tag_eq (h : Asks operation values sender? tag slots) : tag = operation.tag := by
  cases h <;> rfl

theorem names_eq (h : Asks operation values sender? tag slots) :
    slots.map Prod.fst = operation.fields.map (·.name) := by
  cases h <;> rfl

theorem length_eq (h : Asks operation values sender? tag slots) :
    (slots.map fun slot => slot.2.value).length = operation.fields.length := by
  have hNames := congrArg List.length h.names_eq
  simpa using hNames

/-- A message is portable if the values of its fields are. -/
theorem portable (h : Asks operation values sender? tag slots) {fields : Entries Json}
    (hNames : (fields.map Prod.fst).Sublist (slots.map Prod.fst))
    (hValues : ∀ v ∈ fields.map Prod.snd, v.Portable) :
    (Json.object [(tag, .object fields)]).Portable := by
  have hTag : tag.SurrogateFree := by
    cases h <;> decide
  have hFree : ∀ name ∈ operation.fields.map (·.name), name.SurrogateFree := by
    cases operation <;> decide
  rw [h.names_eq] at hNames
  have hFields : (Json.object fields).Portable :=
    .object (hNames.nodup operation.nodup_fields)
      (fun name hName => hFree name (hNames.subset hName)) hValues
  exact .object (by simp) (by simpa using hTag) (by simpa using hFields)

/-- The message of a row, with the values of its fields. -/
def message (h : Asks operation values sender? tag slots) : Message :=
  ⟨operation, slots.map fun slot => slot.2.value, h.length_eq⟩

theorem messageOf?_eq (h : Asks operation values sender? tag slots) {arguments : Arguments}
    (hBind : operation.parameters.bind arguments = some values) :
    operation.messageOf? arguments = some (sender?, h.message) := by
  rw [Operation.messageOf?, hBind]
  cases h <;> rfl

end Asks

/-- The amounts of a call are those of its row. -/
theorem Asks.hasAmountTexts_eq {operation : Operation} {values : List Json}
    {sender? : Option Json} {tag : Text} {slots : List (Text × Slot)}
    (h : Asks operation values sender? tag slots) {arguments : Arguments}
    (hBind : operation.parameters.bind arguments = some values) :
    operation.hasAmountTexts arguments = slots.all fun slot => slot.2.hasAmountText := by
  rw [Operation.hasAmountTexts, hBind]
  cases h <;> rfl

/-- Every operation has a row for every list of values that fits. -/
theorem exists_asks {operation : Operation} {values : List Json}
    (h : values.length = operation.parameters.length) :
    ∃ sender? tag slots, Asks operation values sender? tag slots := by
  match operation, values, h with
  | .balance, [address], _ => exact ⟨_, _, _, .balance address⟩
  | .allowance, [owner, spender], _ => exact ⟨_, _, _, .allowance owner spender⟩
  | .allAllowances, [owner, start, limit], _ => exact ⟨_, _, _, .allAllowances owner start limit⟩
  | .allAccounts, [start, limit], _ => exact ⟨_, _, _, .allAccounts start limit⟩
  | .tokenInfo, [], _ => exact ⟨_, _, _, .tokenInfo⟩
  | .minter, [], _ => exact ⟨_, _, _, .minter⟩
  | .demurrageAmount, [], _ => exact ⟨_, _, _, .demurrageAmount⟩
  | .taxLevel, [], _ => exact ⟨_, _, _, .taxLevel⟩
  | .sinkAccount, [], _ => exact ⟨_, _, _, .sinkAccount⟩
  | .mint, [sender, recipient, amount], _ => exact ⟨_, _, _, .mint sender recipient amount⟩
  | .transfer, [sender, recipient, amount], _ => exact ⟨_, _, _, .transfer sender recipient amount⟩
  | .burn, [sender, amount], _ => exact ⟨_, _, _, .burn sender amount⟩
  | .burnFrom, [sender, owner, amount], _ => exact ⟨_, _, _, .burnFrom sender owner amount⟩
  | .increaseAllowance, [sender, spender, amount, expires], _ =>
      exact ⟨_, _, _, .increaseAllowance sender spender amount expires⟩
  | .decreaseAllowance, [sender, spender, amount, expires], _ =>
      exact ⟨_, _, _, .decreaseAllowance sender spender amount expires⟩
  | .transferFrom, [sender, owner, recipient, amount], _ =>
      exact ⟨_, _, _, .transferFrom sender owner recipient amount⟩
  | .send, [sender, recipient, amount, msg], _ =>
      exact ⟨_, _, _, .send sender recipient amount msg⟩
  | .sendFrom, [sender, owner, recipient, amount, msg], _ =>
      exact ⟨_, _, _, .sendFrom sender owner recipient amount msg⟩
  | .updateMinter, [sender, minter], _ => exact ⟨_, _, _, .updateMinter sender minter⟩
  | .changeSinkAddress, [sender, address], _ => exact ⟨_, _, _, .changeSinkAddress sender address⟩
  | .changeTaxLevel, [sender, amount], _ => exact ⟨_, _, _, .changeTaxLevel sender amount⟩

/-! ### Rendering -/

/-- A field that is on the wire as it is, unless it is null. -/
def Slot.IsPlain : Slot → Prop
  | given _ | payload _ => False
  | unlessNull _ | amount _ => True

/-- A field that is on the wire as it is, null or not. -/
def Slot.IsKept : Slot → Prop
  | unlessNull _ | payload _ => False
  | given _ | amount _ => True

theorem Slot.IsTooLong.of_hasAmountText {slot : Slot} (h : slot.hasAmountText ≠ true) :
    slot.IsTooLong := by
  cases slot with
  | amount v => exact fun hNumerals => h ((Json.hasNumerals_eq_true_iff v).mpr hNumerals)
  | _ => exact absurd rfl h

/-- A field with the text that it needs is too long only as a payload. -/
theorem Slot.IsKept.not_isTooLong {slot : Slot} (h : slot.IsKept)
    (hText : slot.hasAmountText = true) : ¬slot.IsTooLong := by
  cases slot with
  | given v => exact id
  | amount v => exact fun hLong => hLong ((Json.hasNumerals_eq_true_iff v).mp hText)
  | _ => exact h.elim

namespace Written

variable {slots : List (Text × Slot)} {fields : Entries Json}

/-- Plain fields are written one by one, without the nulls. -/
theorem of_plain (h : ∀ slot ∈ slots, slot.2.IsPlain)
    (hTexts : ∀ slot ∈ slots, slot.2.hasAmountText = true) :
    Written slots (Json.withoutNulls (slots.map fun slot => (slot.1, slot.2.value))) := by
  induction slots with
  | nil => exact .nil
  | cons slot slots ih =>
      obtain ⟨name, slot⟩ := slot
      obtain ⟨hPlain, hOthers⟩ := List.forall_mem_cons.mp h
      obtain ⟨hText, hOtherTexts⟩ := List.forall_mem_cons.mp hTexts
      have hRest := ih hOthers hOtherTexts
      cases slot with
      | given v => exact hPlain.elim
      | payload v => exact hPlain.elim
      | amount v => exact .amount ((Json.hasNumerals_eq_true_iff v).mp hText) hRest
      | unlessNull v =>
          by_cases hv : v = .null
          · subst hv
            exact .null hRest
          · have hKept : ∀ ms, Json.withoutNulls ((name, v) :: ms) =
                (name, v) :: Json.withoutNulls ms := by
              simp [Json.withoutNulls, Json.isNull_eq_false_iff.mpr hv]
            rw [List.map_cons]
            exact (hKept _).symm ▸ .unlessNull hv hRest

/-- The fields on the wire are determined by what they are made from. -/
theorem unique (h : Written slots fields) {others : Entries Json} (hOthers : Written slots others) :
    others = fields := by
  induction h generalizing others with
  | nil =>
      cases hOthers
      rfl
  | given _ ih =>
      cases hOthers with
      | given hRest => rw [ih hRest]
  | unlessNull hv _ ih =>
      cases hOthers with
      | unlessNull _ hRest => rw [ih hRest]
      | null _ => exact absurd rfl hv
  | null _ ih =>
      cases hOthers with
      | unlessNull hv _ => exact absurd rfl hv
      | null hRest => rw [ih hRest]
  | amount _ _ ih =>
      cases hOthers with
      | amount _ hRest => rw [ih hRest]
  | payload _ _ hEmbed _ ih =>
      cases hOthers with
      | payload _ _ hOther hRest =>
          rw [hEmbed] at hOther
          rw [ih hRest, Except.ok.inj hOther]

/-- No field is on the wire that has no slot, and the order stays. -/
theorem names_sublist (h : Written slots fields) :
    (fields.map Prod.fst).Sublist (slots.map Prod.fst) := by
  induction h with
  | nil => exact .slnil
  | null _ ih => exact ih.cons _
  | given _ ih => exact ih.cons_cons _
  | unlessNull _ _ ih => exact ih.cons_cons _
  | amount _ _ ih => exact ih.cons_cons _
  | payload _ _ _ _ ih => exact ih.cons_cons _

/-- What is kept is written in front of the rest as it is. -/
theorem of_kept (h : ∀ slot ∈ slots, slot.2.IsKept)
    (hTexts : ∀ slot ∈ slots, slot.2.hasAmountText = true) {rest : List (Text × Slot)}
    (hRest : Written rest fields) :
    Written (slots ++ rest) ((slots.map fun slot => (slot.1, slot.2.value)) ++ fields) := by
  induction slots with
  | nil => exact hRest
  | cons slot slots ih =>
      obtain ⟨name, slot⟩ := slot
      obtain ⟨hKept, hOthers⟩ := List.forall_mem_cons.mp h
      obtain ⟨hText, hOtherTexts⟩ := List.forall_mem_cons.mp hTexts
      have hTail := ih hOthers hOtherTexts
      cases slot with
      | given v => exact .given hTail
      | amount v => exact .amount ((Json.hasNumerals_eq_true_iff v).mp hText) hTail
      | payload v => exact hKept.elim
      | unlessNull v => exact hKept.elim

end Written

namespace Asks

variable {operation : Operation} {values : List Json} {sender? : Option Json} {tag : Text}
  {slots : List (Text × Slot)}

/-- Fields are left out if they are null, except beside a payload, which comes
last. -/
theorem plain_or_payload (h : Asks operation values sender? tag slots) :
    (operation.carriesPayload = false ∧ ∀ slot ∈ slots, slot.2.IsPlain) ∨
    operation.carriesPayload = true ∧ ∃ before v,
      slots = before ++ [(Text.ofString "msg", .payload v)] ∧
      (∀ slot ∈ before, slot.2.IsKept) ∧ Text.ofString "msg" ∉ before.map Prod.fst := by
  cases h with
  | send sender recipient amount msg =>
      have hNames : Text.ofString "msg" ∉ [Text.ofString "recipient", "amount"] := by decide
      exact .inr ⟨rfl, [("recipient", .given recipient), ("amount", .amount amount)], msg, rfl,
        by simp [Slot.IsKept], hNames⟩
  | sendFrom sender owner recipient amount msg =>
      have hNames : Text.ofString "msg" ∉ [Text.ofString "owner", "recipient", "amount"] := by
        decide
      exact .inr ⟨rfl, [("owner", .given owner), ("recipient", .given recipient),
        ("amount", .amount amount)], msg, rfl, by simp [Slot.IsKept], hNames⟩
  | _ => exact .inl ⟨rfl, by simp [Slot.IsPlain]⟩

theorem namedValues_message (h : Asks operation values sender? tag slots) :
    h.message.namedValues = slots.map fun slot => (slot.1, slot.2.value) := by
  rw [Message.namedValues, message, ← h.names_eq]
  exact List.zip_map' ..

/-- A message whose amounts have texts renders to the fields of its row under its
tag, unless it has a payload that cannot be written. -/
theorem toJson_message (h : Asks operation values sender? tag slots)
    (hTexts : ∀ slot ∈ slots, slot.2.hasAmountText = true) :
    (∃ fields, Written slots fields ∧
      h.message.toJson = .ok (.object [(tag, .object fields)])) ∨
    ∃ before v fault, slots = before ++ [(Text.ofString "msg", .payload v)] ∧
      (∀ slot ∈ before, slot.2.IsKept) ∧ Payload.embed v = .error fault ∧
      h.message.toJson = .error fault := by
  have hTag : h.message.operation.tag = tag := h.tag_eq.symm
  rcases h.plain_or_payload with ⟨hCarries, hPlain⟩ | ⟨hCarries, before, v, hSlots, hKept, hBefore⟩
  · left
    have hBody : h.message.body = .ok (Json.withoutNulls h.message.namedValues) :=
      if_neg (by simp [message, hCarries])
    refine ⟨_, .of_plain hPlain hTexts, ?_⟩
    rw [Message.toJson, hBody, namedValues_message, hTag]
    rfl
  · have hBody : h.message.body = Message.embedPayload h.message.namedValues := if_pos hCarries
    have hValues : h.message.namedValues =
        before.map (fun slot => (slot.1, slot.2.value)) ++ [(Text.ofString "msg", v)] := by
      rw [namedValues_message, hSlots, List.map_append]
      rfl
    have hNames : Text.ofString "msg" ∉
        (before.map fun slot => (slot.1, slot.2.value)).map Prod.fst := by
      rwa [List.map_map]
    rw [Message.toJson, hBody, hValues, Message.embedPayload_append hNames, hTag]
    cases hEmbed : Payload.embed v with
    | ok t =>
        obtain ⟨hNumerals, hFree, -⟩ := Payload.embed_eq_ok_iff.mp hEmbed
        have hPayload : Written [(Text.ofString "msg", .payload v)] [("msg", .string t)] :=
          .payload hNumerals hFree hEmbed .nil
        have hBeforeTexts : ∀ slot ∈ before, slot.2.hasAmountText = true := fun slot hSlot =>
          hTexts slot (hSlots ▸ List.mem_append_left _ hSlot)
        exact .inl ⟨_, hSlots ▸ Written.of_kept hKept hBeforeTexts hPayload, rfl⟩
    | error fault => exact .inr ⟨before, v, fault, hSlots, hKept, hEmbed, rfl⟩

/-- Queries name neither amounts nor a payload. -/
theorem given_of_query (h : Asks operation values none tag slots) :
    ∀ slot ∈ slots, ∃ v, slot.2 = .unlessNull v := by
  cases h <;> simp

/-- A query is always written. -/
theorem exists_written (h : Asks operation values none tag slots) :
    ∃ fields, Written slots fields := by
  have hTexts : ∀ slot ∈ slots, slot.2.hasAmountText = true := by
    intro slot hSlot
    obtain ⟨v, hv⟩ := h.given_of_query slot hSlot
    rw [hv]
    rfl
  rcases h.toJson_message hTexts with ⟨fields, hWritten, -⟩ | ⟨before, v, -, hSlots, -⟩
  · exact ⟨fields, hWritten⟩
  · obtain ⟨w, hw⟩ := h.given_of_query (Text.ofString "msg", .payload v) (by simp [hSlots])
    cases hw

end Asks

/-! ### Calls and results -/

/-- A message on the wire as a call: a query if there is no sender. -/
def Call.ofSender (fee : Fee) (contract : Text) (sender? : Option Json) (wire : Json) : Call :=
  match sender? with
  | none => .query contract wire
  | some sender => .execute sender contract wire fee

/-- An operation calls the client once, with the message of its row, and makes
its result from the client's; without a message it calls nobody. An amount or a
payload with too long an integer is found before a surrogate is. -/
theorem Asks.invoke {operation : Operation} {values : List Json} {sender? : Option Json}
    {tag : Text} {slots : List (Text × Slot)} (h : Asks operation values sender? tag slots)
    {arguments : Arguments} (hBind : operation.parameters.bind arguments = some values)
    {Sent Failure : Type} (handle : Handle) (client : Call → Outcome Sent Failure Answer) :
    (∃ fields call, Written slots fields ∧
      call = Call.ofSender handle.fee handle.contract sender? (.object [(tag, .object fields)]) ∧
      (handle.invoke client operation arguments).sent = (client call).sent ∧
      (handle.invoke client operation arguments).result =
        Handle.settle operation (client call).result) ∨
    (∃ slot ∈ slots, slot.2.IsTooLong) ∧
      handle.invoke client operation arguments =
        .refuse (.refused (.unwritable .tooManyDigits)) ∨
    ∃ v run, (Text.ofString "msg", .payload v) ∈ slots ∧
      (∀ slot ∈ slots, ¬slot.2.IsTooLong) ∧ Payload.embed v = .error (.surrogates run) ∧
      handle.invoke client operation arguments =
        .refuse (.refused (.unwritable (.surrogates run))) := by
  rw [Handle.invoke, Handle.prepare, h.messageOf?_eq hBind, h.hasAmountTexts_eq hBind]
  by_cases hTexts : ∀ slot ∈ slots, slot.2.hasAmountText = true
  · rw [List.all_eq_true.mpr hTexts]
    simp only [Bool.not_true, Bool.false_eq_true, if_false]
    rcases h.toJson_message hTexts with
      ⟨fields, hWritten, hJson⟩ | ⟨before, v, fault, hSlots, hKept, hEmbed, hJson⟩
    · refine .inl ⟨fields, _, hWritten, rfl, ?_⟩
      simp only [hJson]
      cases sender? with
      | none => exact ⟨rfl, rfl⟩
      | some sender => exact ⟨rfl, rfl⟩
    · right
      have hPayload : (Text.ofString "msg", .payload v) ∈ slots := by simp [hSlots]
      simp only [hJson]
      cases fault with
      | tooManyDigits =>
          exact .inl ⟨⟨_, hPayload, Payload.embed_eq_tooManyDigits_iff.mp hEmbed⟩, rfl⟩
      | surrogates run =>
          refine .inr ⟨v, run, hPayload, fun slot hSlot => ?_, hEmbed, rfl⟩
          have hText := hTexts slot hSlot
          rw [hSlots, List.mem_append, List.mem_singleton] at hSlot
          rcases hSlot with hSlot | rfl
          · exact (hKept slot hSlot).not_isTooLong hText
          · intro hLong
            rw [Payload.embed_eq_tooManyDigits_iff.mpr hLong] at hEmbed
            cases hEmbed
  · have hSome : (slots.all fun slot => slot.2.hasAmountText) = false :=
      Bool.eq_false_iff.mpr fun hAll => hTexts (List.all_eq_true.mp hAll)
    rw [hSome]
    push Not at hTexts
    obtain ⟨slot, hSlot, hText⟩ := hTexts
    exact .inr (.inl ⟨⟨slot, hSlot, .of_hasAmountText hText⟩, rfl⟩)

/-- A query is never refused: it names neither an amount nor a payload. -/
theorem Asks.invoke_query {operation : Operation} {values : List Json} {tag : Text}
    {slots : List (Text × Slot)} (h : Asks operation values none tag slots) {arguments : Arguments}
    (hBind : operation.parameters.bind arguments = some values) {Sent Failure : Type}
    (handle : Handle) (client : Call → Outcome Sent Failure Answer) :
    ∃ fields, Written slots fields ∧
      (handle.invoke client operation arguments).sent =
        (client (.query handle.contract (.object [(tag, .object fields)]))).sent ∧
      (handle.invoke client operation arguments).result =
        Handle.settle operation
          (client (.query handle.contract (.object [(tag, .object fields)]))).result := by
  rcases h.invoke hBind handle client with
    ⟨fields, call, hWritten, rfl, hCall⟩ | ⟨⟨slot, hSlot, hLong⟩, -⟩ | ⟨v, run, hPayload, -⟩
  · exact ⟨fields, hWritten, hCall⟩
  · obtain ⟨v, hv⟩ := h.given_of_query slot hSlot
    rw [hv] at hLong
    exact hLong.elim
  · obtain ⟨w, hw⟩ := h.given_of_query _ hPayload
    cases hw

/-- The member that a query gives instead of the whole answer. -/
inductive Unwraps : Operation → Text → Prop where
  | balance : Unwraps .balance "balance"
  | allAccounts : Unwraps .allAccounts "accounts"

/-- The result of an operation whose call came to something. A failure of the
client stays what it is. -/
inductive Settles {Failure : Type} (operation : Operation) :
    Except Failure Answer → Except (OperationFailure Failure) Answer → Prop where
  | failure (failure : Failure) : Settles operation (.error failure) (.error (.client failure))
  | hash {members : Entries Json} {v : Json} (hLayer : operation.layer = .execute)
      (hHash : members.lookup (Text.ofString "transactionHash") = some v) :
      Settles operation (.ok (.json (.object members))) (.ok (.json v))
  | hashMissing {members : Entries Json} (hLayer : operation.layer = .execute)
      (hHash : members.lookup (Text.ofString "transactionHash") = none) :
      Settles operation (.ok (.json (.object members)))
        (.error (.answer (.missingMember "transactionHash")))
  | noObject {v : Json} (hLayer : operation.layer = .execute)
      (hv : ∀ members, v ≠ .object members) :
      Settles operation (.ok (.json v))
        (.error (.answer (.missingAttribute v.kindName "transaction_hash")))
  | attribute {attributes : Entries Json} {v : Json} (hLayer : operation.layer = .execute)
      (hHash : attributes.lookup (Text.ofString "transaction_hash") = some v) :
      Settles operation (.ok (.record attributes)) (.ok (.json v))
  | attributeMissing {attributes : Entries Json} (hLayer : operation.layer = .execute)
      (hHash : attributes.lookup (Text.ofString "transaction_hash") = none) :
      Settles operation (.ok (.record attributes))
        (.error (.answer (.missingAttribute Answer.recordKind "transaction_hash")))
  | member {name : Text} {answer : Answer} {v : Json} (hUnwraps : Unwraps operation name)
      (hMember : answer.member name = .ok v) : Settles operation (.ok answer) (.ok (.json v))
  | memberMissing {name : Text} {answer : Answer} {fault : Json.AccessFault}
      (hUnwraps : Unwraps operation name) (hMember : answer.member name = .error fault) :
      Settles operation (.ok answer) (.error (.answer fault))
  | whole {answer : Answer} (hLayer : operation.layer = .query)
      (hWhole : ∀ name, ¬Unwraps operation name) : Settles operation (.ok answer) (.ok answer)

variable {Failure : Type} {operation : Operation}

/-- The result of what is executed is the hash of the transaction, where the answer
has one. -/
theorem settles_of_execute (hLayer : operation.layer = .execute) (answer : Answer) :
    @Settles Failure operation (.ok answer)
      ((answer.transactionHash.map Answer.json).mapError .answer) := by
  cases answer with
  | record attributes =>
      rw [Answer.transactionHash]
      cases hHash : attributes.lookup (Text.ofString "transaction_hash") with
      | none => exact .attributeMissing hLayer hHash
      | some v => exact .attribute hLayer hHash
  | json v =>
      cases v with
      | object members =>
          rw [Answer.transactionHash, Json.member]
          cases hHash : members.lookup (Text.ofString "transactionHash") with
          | none => exact .hashMissing hLayer hHash
          | some v => exact .hash hLayer hHash
      | _ => exact .noObject hLayer (by simp)

theorem settles_of_unwraps {name : Text} (hUnwraps : Unwraps operation name) (answer : Answer) :
    @Settles Failure operation (.ok answer)
      (((answer.member name).map Answer.json).mapError .answer) := by
  cases hMember : answer.member name with
  | ok v => exact .member hUnwraps hMember
  | error fault => exact .memberMissing hUnwraps hMember

/-- Every call is settled, whatever came of it. -/
theorem settles_settle (operation : Operation) (came : Except Failure Answer) :
    Settles operation came (Handle.settle operation came) := by
  cases came with
  | error failure => exact .failure failure
  | ok answer =>
      rw [Handle.settle, Operation.resultIn.eq_def]
      cases operation with
      | balance => exact settles_of_unwraps .balance answer
      | allAccounts => exact settles_of_unwraps .allAccounts answer
      | allowance | allAllowances | tokenInfo | minter | demurrageAmount | taxLevel | sinkAccount =>
          exact .whole rfl (by rintro _ ⟨⟩)
      | _ => exact settles_of_execute rfl answer

end DemurrageToken
