import DemurrageToken.Message
import DemurrageToken.Proofs.Entries
import DemurrageToken.Proofs.Except

/-! The wire form of messages that carry a payload. The payload is the last
field, and it alone decides whether the message renders. -/
namespace DemurrageToken.Message

/-- Only the value named `msg` is replaced. -/
theorem embedPayload_append {before : Entries Json}
    (hBefore : Text.ofString "msg" ∉ before.map Prod.fst) (v : Json) :
    embedPayload (before ++ [(Text.ofString "msg", v)]) =
      (Payload.embed v).map fun t => before ++ [(Text.ofString "msg", .string t)] := by
  induction before with
  | nil =>
      simp only [List.nil_append, embedPayload, if_true]
      cases Payload.embed v <;> rfl
  | cons entry before ih =>
      obtain ⟨name, value⟩ := entry
      rw [List.map_cons, List.mem_cons, not_or] at hBefore
      rw [List.cons_append, embedPayload, if_neg (Ne.symm hBefore.1), ih hBefore.2]
      cases Payload.embed v <;> rfl

/-- The payload is the value of the last field. -/
theorem namedValues_of_carriesPayload {m : Message} (h : m.operation.carriesPayload = true) :
    ∃ before v, m.namedValues = before ++ [(Text.ofString "msg", v)] ∧
      Text.ofString "msg" ∉ before.map Prod.fst := by
  obtain ⟨operation, values, hComplete⟩ := m
  cases operation <;> try cases h
  · obtain ⟨recipient, amount, v, rfl⟩ := List.length_eq_three.mp hComplete
    have hNames : Text.ofString "msg" ∉ [Text.ofString "recipient", "amount"] := by decide
    exact ⟨[("recipient", recipient), ("amount", amount)], v, rfl, hNames⟩
  · obtain ⟨owner, values, rfl⟩ := List.exists_cons_of_length_eq_add_one hComplete
    obtain ⟨recipient, amount, v, rfl⟩ := List.length_eq_three.mp (Nat.succ.inj hComplete)
    have hNames : Text.ofString "msg" ∉ [Text.ofString "owner", "recipient", "amount"] := by decide
    exact ⟨[("owner", owner), ("recipient", recipient), ("amount", amount)], v, rfl, hNames⟩

/-- A message with a payload has the fields it was given, the payload embedded;
if that fails, the message fails with the same run of surrogates. -/
theorem toJson_of_carriesPayload {m : Message} (h : m.operation.carriesPayload = true) :
    ∃ before v, m.namedValues = before ++ [(Text.ofString "msg", v)] ∧
      Text.ofString "msg" ∉ before.map Prod.fst ∧
      m.toJson = (Payload.embed v).map fun t =>
        .object [(m.operation.tag, .object (before ++ [(Text.ofString "msg", .string t)]))] := by
  obtain ⟨before, v, hValues, hBefore⟩ := namedValues_of_carriesPayload h
  refine ⟨before, v, hValues, hBefore, ?_⟩
  rw [toJson, body, if_pos h, hValues, embedPayload_append hBefore]
  cases Payload.embed v <;> rfl

end DemurrageToken.Message
