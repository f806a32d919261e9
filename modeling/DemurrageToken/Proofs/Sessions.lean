import DemurrageToken.Proofs.ContractCalls
import DemurrageToken.Proofs.Integers

/-! Sequences of operations on handles that share a client and a fee. The client
may answer each call as it likes, and by all that it has seen before; the calls
that it sees are one for each operation whose message renders. An amount is the same
as an integer and in decimal, as long as the integer has a decimal text. -/
namespace DemurrageToken.Session

/-- An operation on a handle of a contract, with its arguments. -/
structure Step where
  contract : Text
  operation : Operation
  arguments : Arguments

/-- A client, which knows the calls before the one that it answers. -/
abbrev Client (Failure : Type) := List Call → Call → Except Failure Answer

variable {Failure : Type}

/-- What a client does with a call, the call itself recorded. -/
def record (client : Client Failure) (seen : List Call) (call : Call) :
    Outcome Call Failure Answer :=
  ⟨[], [call], client seen call⟩

/-- What one step leaves behind after some calls. -/
def Step.perform (step : Step) (client : Client Failure) (fee : Fee) (seen : List Call) :
    Outcome Call (OperationFailure Failure) Answer :=
  (Handle.mk step.contract fee).invoke (record client seen) step.operation step.arguments

/-- The calls that a client sees in a session, and the results of the steps. -/
def run (client : Client Failure) (fee : Fee) (seen : List Call) :
    List Step → List Call × List (Except (OperationFailure Failure) Answer)
  | [] => ([], [])
  | step :: steps =>
      let o := step.perform client fee seen
      let (calls, results) := run client fee (seen ++ o.sent) steps
      (o.sent ++ calls, o.result :: results)

/-- The calls and results that a session should have. -/
inductive Follows (client : Client Failure) (fee : Fee) : List Call → List Step → List Call →
    List (Except (OperationFailure Failure) Answer) → Prop where
  | done (seen : List Call) : Follows client fee seen [] [] []
  /-- The message renders, and the result is settled by what the call came to. -/
  | called {seen calls : List Call} {step : Step} {steps : List Step} {values : List Json}
      {sender? : Option Json} {tag : Text} {slots : List (Text × Slot)} {fields : Entries Json}
      {call : Call} {result : Except (OperationFailure Failure) Answer}
      {results : List (Except (OperationFailure Failure) Answer)}
      (hBind : step.operation.parameters.bind step.arguments = some values)
      (hAsks : Asks step.operation values sender? tag slots) (hWritten : Written slots fields)
      (hCall : call = .ofSender fee step.contract sender? (.object [(tag, .object fields)]))
      (hResult : Settles step.operation (client seen call) result)
      (rest : Follows client fee (seen ++ [call]) steps calls results) :
      Follows client fee seen (step :: steps) (call :: calls) (result :: results)
  /-- The amount or the payload holds an integer with too many digits, and there is no call. -/
  | tooManyDigits {seen calls : List Call} {step : Step} {steps : List Step} {values : List Json}
      {sender? : Option Json} {tag : Text} {slots : List (Text × Slot)}
      {results : List (Except (OperationFailure Failure) Answer)}
      (hBind : step.operation.parameters.bind step.arguments = some values)
      (hAsks : Asks step.operation values sender? tag slots)
      (hLong : ∃ slot ∈ slots, slot.2.IsTooLong)
      (rest : Follows client fee seen steps calls results) :
      Follows client fee seen (step :: steps) calls
        (.error (.refused (.unwritable .tooManyDigits)) :: results)
  /-- All integers have numerals, but the payload holds a surrogate, and there is no call. -/
  | surrogates {seen calls : List Call} {step : Step} {steps : List Step} {values : List Json}
      {sender? : Option Json} {tag : Text} {slots : List (Text × Slot)} {v : Json}
      {run : Utf8.SurrogateRun} {results : List (Except (OperationFailure Failure) Answer)}
      (hBind : step.operation.parameters.bind step.arguments = some values)
      (hAsks : Asks step.operation values sender? tag slots)
      (hShort : ∀ slot ∈ slots, ¬slot.2.IsTooLong)
      (hPayload : (Text.ofString "msg", .payload v) ∈ slots) (hSurrogate : ¬v.SurrogateFree)
      (hEmbed : Payload.embed v = .error (.surrogates run))
      (rest : Follows client fee seen steps calls results) :
      Follows client fee seen (step :: steps) calls
        (.error (.refused (.unwritable (.surrogates run))) :: results)

/-- One step goes on with what follows after its call, if it has one. -/
theorem Follows.step {client : Client Failure} {fee : Fee} {seen calls : List Call} {step : Step}
    {steps : List Step} {results : List (Except (OperationFailure Failure) Answer)}
    (hFits : (step.operation.parameters.bind step.arguments).isSome = true)
    (rest : Follows client fee (seen ++ (step.perform client fee seen).sent) steps calls results) :
    Follows client fee seen (step :: steps) ((step.perform client fee seen).sent ++ calls)
      ((step.perform client fee seen).result :: results) := by
  obtain ⟨values, hBind⟩ := Option.isSome_iff_exists.mp hFits
  obtain ⟨sender?, tag, slots, hAsks⟩ := exists_asks (Signature.length_of_bind hBind)
  rw [Step.perform] at rest ⊢
  rcases hAsks.invoke hBind ⟨step.contract, fee⟩ (record client seen) with
    ⟨fields, call, hWritten, hCall, hSent, hResult⟩ | ⟨hLong, hRefused⟩ |
      ⟨v, surrogates, hPayload, hShort, hEmbed, hRefused⟩
  · rw [hSent] at rest ⊢
    rw [hResult]
    exact .called hBind hAsks hWritten hCall (settles_settle _ _) rest
  · rw [hRefused] at rest ⊢
    rw [Outcome.refuse, List.append_nil] at rest
    exact .tooManyDigits hBind hAsks hLong rest
  · have hNumerals : v.HasNumerals := not_not.mp (hShort _ hPayload)
    have hSurrogate : ¬v.SurrogateFree := by
      intro hFree
      rw [Payload.embed_eq_ok_iff.mpr ⟨hNumerals, hFree, rfl⟩] at hEmbed
      cases hEmbed
    rw [hRefused] at rest ⊢
    rw [Outcome.refuse, List.append_nil] at rest
    exact .surrogates hBind hAsks hShort hPayload hSurrogate hEmbed rest

/-- A session is followed step by step. -/
theorem follows_run (client : Client Failure) (fee : Fee) {steps : List Step}
    (hFits : ∀ step ∈ steps, (step.operation.parameters.bind step.arguments).isSome = true)
    (seen : List Call) :
    Follows client fee seen steps (run client fee seen steps).1 (run client fee seen steps).2 := by
  -- The calls that the client has seen grow with every step.
  induction steps generalizing seen with
  | nil => exact .done seen
  | cons step steps ih =>
      exact .step (hFits step (List.mem_cons_self ..))
        (ih (fun other hOther => hFits other (List.mem_cons_of_mem _ hOther)) _)

/-! ### Amounts -/

/-- Values of parameters that differ at most in how an amount is given: as an
integer, and as its decimal text, where it has one. -/
inductive SameAmounts : Signature → List Json → List Json → Prop where
  | nil : SameAmounts [] [] []
  | same {p : Parameter} {signature : Signature} {v : Json} {values others : List Json}
      (rest : SameAmounts signature values others) :
      SameAmounts (p :: signature) (v :: values) (v :: others)
  | amount {p : Parameter} {signature : Signature} {n : Int} {values others : List Json}
      (hName : p.name = Text.ofString "amount")
      (hDigits : (Nat.toDigits 10 n.natAbs).length ≤ Text.integerDigitLimit)
      (rest : SameAmounts signature values others) :
      SameAmounts (p :: signature) (.int n :: values) (.string (Text.ofInt n) :: others)

namespace SameAmounts

variable {signature : Signature} {values others : List Json}

/-- Without an amount there is nothing to differ in. -/
theorem eq_of_notMem (h : SameAmounts signature values others)
    (hName : Text.ofString "amount" ∉ signature.map (·.name)) : values = others := by
  induction h with
  | nil => rfl
  | same _ ih =>
      rw [List.map_cons, List.mem_cons, not_or] at hName
      rw [ih hName.2]
  | amount hAmount _ _ =>
      rw [List.map_cons, List.mem_cons, not_or] at hName
      exact absurd hAmount.symm hName.1

/-- Both spellings of an amount are its decimal text in the end. -/
theorem withAmountText_eq {operation : Operation}
    (h : SameAmounts operation.fields values others) :
    operation.withAmountText values = operation.withAmountText others := by
  rw [Operation.withAmountText, Operation.withAmountText]
  generalize operation.fields = signature at h ⊢
  induction h with
  | nil => rfl
  | same _ ih => rw [List.zip_cons_cons, List.zip_cons_cons, List.map_cons, List.map_cons, ih]
  | amount hName _ _ ih =>
      simp only [List.zip_cons_cons, List.map_cons, hName, if_true, ih]
      rfl

/-- Both spellings of an amount have a text. -/
theorem hasAmountTexts_eq {operation : Operation} {arguments otherArguments : Arguments}
    (hBind : operation.parameters.bind arguments = some values)
    (hOthers : operation.parameters.bind otherArguments = some others)
    (h : SameAmounts operation.parameters values others) :
    operation.hasAmountTexts arguments = operation.hasAmountTexts otherArguments := by
  rw [Operation.hasAmountTexts, Operation.hasAmountTexts, hBind, hOthers]
  dsimp only
  clear hBind hOthers
  generalize operation.parameters = signature at h ⊢
  induction h with
  | nil => rfl
  | same _ ih => rw [List.zip_cons_cons, List.zip_cons_cons, List.all_cons, List.all_cons, ih]
  | @amount p signature n values others hName hDigits _ ih =>
      have hInteger : (Json.int n).hasNumerals = true := decide_eq_true hDigits
      have hText : (Json.string (Text.ofInt n)).hasNumerals = true := rfl
      rw [List.zip_cons_cons, List.zip_cons_cons, List.all_cons, List.all_cons, ih, hInteger,
        hText]

end SameAmounts

theorem amount_notMem_fields {operation : Operation} (h : operation.layer = .query) :
    Text.ofString "amount" ∉ operation.fields.map (·.name) := by
  cases operation <;> first | decide | cases h

theorem messageOf?_of_sameAmounts {operation : Operation} {arguments others : Arguments}
    {values otherValues : List Json}
    (hBind : operation.parameters.bind arguments = some values)
    (hOthers : operation.parameters.bind others = some otherValues)
    (h : SameAmounts operation.parameters values otherValues) :
    operation.messageOf? arguments = operation.messageOf? others := by
  rw [Operation.messageOf?, Operation.messageOf?, hBind, hOthers]
  rw [Operation.parameters.eq_def] at h
  cases hLayer : operation.layer with
  | query =>
      rw [hLayer] at h
      rw [h.eq_of_notMem (amount_notMem_fields hLayer)]
  | execute =>
      rw [hLayer] at h
      cases h with
      | same rest => simp only [Option.bind_eq_bind, Option.bind_some, rest.withAmountText_eq]
      | amount hName _ _ => exact absurd hName (by decide)

/-- Steps that differ at most in how amounts are given. -/
def Step.SameAmounts (step other : Step) : Prop :=
  step.contract = other.contract ∧ step.operation = other.operation ∧
    ∃ values others, step.operation.parameters.bind step.arguments = some values ∧
      step.operation.parameters.bind other.arguments = some others ∧
      Session.SameAmounts step.operation.parameters values others

theorem Step.SameAmounts.perform_eq {step other : Step} (h : step.SameAmounts other)
    (client : Client Failure) (fee : Fee) (seen : List Call) :
    step.perform client fee seen = other.perform client fee seen := by
  obtain ⟨contract, operation, arguments⟩ := step
  obtain ⟨contract', operation', arguments'⟩ := other
  obtain ⟨hContract, hOperation, values, others, hBind, hOthers, hSame⟩ := h
  dsimp only at hContract hOperation hBind hOthers hSame
  subst hContract hOperation
  rw [perform, perform, Handle.invoke, Handle.invoke, Handle.prepare, Handle.prepare,
    messageOf?_of_sameAmounts hBind hOthers hSame, hSame.hasAmountTexts_eq hBind hOthers]

/-- The spelling of amounts does not matter to a session. -/
theorem run_of_sameAmounts {client : Client Failure} {fee : Fee} {steps others : List Step}
    (h : List.Forall₂ Step.SameAmounts steps others) (seen : List Call) :
    run client fee seen steps = run client fee seen others := by
  induction h generalizing seen with
  | nil => rfl
  | cons hStep _ ih => simp only [run, hStep.perform_eq, ih]

/-- Whatever the client answers, it sees one call for each step whose message
renders and none for the others, in order, and each result is settled by what
the call came to. An integer amount and its decimal text make no difference, where
the integer has a decimal text. -/
theorem run_spec (client : Client Failure) (fee : Fee) {steps : List Step}
    (hFits : ∀ step ∈ steps, (step.operation.parameters.bind step.arguments).isSome = true) :
    Follows client fee [] steps (run client fee [] steps).1 (run client fee [] steps).2 ∧
      ∀ others, List.Forall₂ Step.SameAmounts steps others →
        run client fee [] others = run client fee [] steps :=
  ⟨follows_run client fee hFits [], fun _ hOthers => (run_of_sameAmounts hOthers []).symm⟩

/-- Between a transfer at which the client fails and a query that it answers, a
payload with a surrogate causes no call. -/
theorem run_spec_surrogate :
    let client : Client Unit := fun seen _ =>
      if seen.isEmpty then .error () else .ok (.json (.object [("balance", .string "7")]))
    let fee := Fee.ofTexts (.string "ucosm") "5000" "200000"
    let steps (amount : Json) : List Step :=
      [⟨"t", .transfer, ⟨[.string "s", .string "r", amount], []⟩⟩,
        ⟨"u", .send, ⟨[.string "s", .string "r", .int 1, .string [.surrogate 0]], []⟩⟩,
        ⟨"u", .balance, ⟨[], [("address", .string "r")]⟩⟩]
    Follows client fee [] (steps (.int 5))
      [.execute (.string "s") "t" (.object [("transfer",
          .object [("recipient", .string "r"), ("amount", .string "5")])]) fee,
        .query "u" (.object [("balance", .object [("address", .string "r")])])]
      [.error (.client ()), .error (.refused (.unwritable (.surrogates ⟨1, .surrogate 0, 1⟩))),
        .ok (.json (.string "7"))] ∧
    run client fee [] (steps (.string "5")) = run client fee [] (steps (.int 5)) := by
  intro client fee steps
  have hFits : ∀ step ∈ steps (.int 5),
      (step.operation.parameters.bind step.arguments).isSome = true := by
    decide
  have hAmounts : List.Forall₂ Step.SameAmounts (steps (.int 5)) (steps (.string "5")) := by
    refine .cons ⟨rfl, rfl, _, _, rfl, rfl, ?_⟩ (.cons ⟨rfl, rfl, _, _, rfl, rfl, ?_⟩
      (.cons ⟨rfl, rfl, _, _, rfl, rfl, ?_⟩ .nil))
    · exact .same (.same (.amount rfl (by decide) .nil))
    · exact .same (.same (.same (.same .nil)))
    · exact .same .nil
  obtain ⟨hFollows, hSame⟩ := run_spec client fee hFits
  exact ⟨hFollows, hSame _ hAmounts⟩

/-- An integer of 4301 digits has no decimal text, and its transfer causes no call. The
decimal text that it would have does cause one. -/
theorem run_long_amount :
    let client : Client Unit := fun _ _ => .ok (.json (.object [("transactionHash", .string "h")]))
    let fee := Fee.ofTexts (.string "ucosm") "5000" "200000"
    let steps (amount : Json) : List Step :=
      [⟨"t", .transfer, ⟨[.string "s", .string "r", amount], []⟩⟩]
    run client fee [] (steps (.int (10 ^ 4300))) =
      ([], [.error (.refused (.unwritable .tooManyDigits))]) ∧
    run client fee [] (steps (.string (Text.ofInt (10 ^ 4300)))) =
      ([.execute (.string "s") "t" (.object [("transfer", .object [("recipient", .string "r"),
          ("amount", .string (Text.ofInt (10 ^ 4300)))])]) fee],
        [.ok (.json (.string "h"))]) := by
  intro client fee steps
  -- The integer and its digits stay variables, so that nothing writes them out.
  have hText : ∀ t : Text, run client fee [] (steps (.string t)) =
      ([.execute (.string "s") "t" (.object [("transfer", .object [("recipient", .string "r"),
        ("amount", .string t)])]) fee], [.ok (.json (.string "h"))]) := fun _ => rfl
  have hInteger : ∀ n : Int, Text.hasNumeral n = false → run client fee [] (steps (.int n)) =
      ([], [.error (.refused (.unwritable .tooManyDigits))]) := by
    intro n hn
    have hAmounts : Operation.transfer.hasAmountTexts
        ⟨[.string "s", .string "r", .int n], []⟩ = false := by
      rw [← hn, ← Bool.and_true (Text.hasNumeral n)]
      rfl
    have hPrepare : (Handle.mk "t" fee).prepare .transfer
        ⟨[.string "s", .string "r", .int n], []⟩ = .error (.unwritable .tooManyDigits) := by
      rw [Handle.prepare, hAmounts]
      rfl
    simp only [run, steps, Step.perform, Handle.invoke, hPrepare]
    rfl
  exact ⟨hInteger _ (Text.hasNumeral_pow (Nat.le_refl 4300)), hText _⟩

end DemurrageToken.Session
