import DemurrageToken.Proofs.JsonDefects
import DemurrageToken.Proofs.PayloadRoundTrip
import DemurrageToken.Proofs.Utf8Defects

/-! Payloads that are rejected behind their base64. The fault that is reported is
the first one: what stands before it can still become a payload that is
accepted, and the bytes of a text cannot with what stands at it. -/
namespace DemurrageToken.Payload

/-- Behind the base64 a payload is read as UTF-8, then as JSON. -/
theorem extract_of_decode {b : Text} {bytes : Bytes} (hAscii : ∀ c ∈ b, c.isAscii = true)
    (hBytes : Base64.decode b = .ok bytes) :
    extract b = ((Utf8.decode bytes).mapError .utf8 >>=
      fun text => (Json.read text).mapError .json) := by
  rw [extract, List.all_eq_true.mpr hAscii, hBytes]
  rfl

/-- Behind sound base64 of a text, the text alone decides. -/
theorem extract_of_text {b : Text} {t : Text} (hAscii : ∀ c ∈ b, c.isAscii = true)
    (hBytes : Base64.decode b = .ok (t.flatMap Utf8.encodeCodePoint)) (ht : t.SurrogateFree) :
    extract b = (Json.read t).mapError .json := by
  rw [extract_of_decode hAscii hBytes, Utf8.decode_eq_ok_iff.mpr ⟨ht, rfl⟩]
  rfl

/-- Rejections point at the first defect. Bytes that are not well-formed are
rejected there, whatever else is wrong. In the bytes of a text that is rejected
as JSON, what stands before the place that is named is the beginning of a
payload that is accepted. -/
theorem extract_rejects {b : Text} {bytes : Bytes} (hAscii : ∀ c ∈ b, c.isAscii = true)
    (hBytes : Base64.decode b = .ok bytes) :
    (¬Utf8.WellFormed bytes →
      ∃ fault, extract b = .error (.utf8 fault) ∧ Utf8.FirstDefect bytes fault) ∧
    ∀ t : Text, t.SurrogateFree → bytes = t.flatMap Utf8.encodeCodePoint →
      ∀ kind line column position,
        extract b = .error (.json (.malformed kind line column position)) →
        Json.FirstDefect t line column position ∧
          ∃ tail v, extract (Base64.encode
            ((t.take position ++ tail).flatMap Utf8.encodeCodePoint)) = .ok v := by
  constructor
  · intro hIll
    obtain ⟨fault, hDecode, hFault⟩ := Utf8.decode_of_not_wellFormed hIll
    refine ⟨fault, ?_, hFault⟩
    rw [extract_of_decode hAscii hBytes, hDecode]
    rfl
  · rintro t ht rfl kind line column position hRejected
    rw [extract_of_text hAscii hBytes ht] at hRejected
    obtain ⟨fault, hRead, hFault⟩ := Except.mapError_eq_error_iff.mp hRejected
    cases hFault
    have hDefect := Json.firstDefect_of_read hRead
    obtain ⟨tail, v, hTail, hDocument⟩ := hDefect.completable
    have hFree : Text.SurrogateFree (t.take position ++ tail) :=
      Text.SurrogateFree.append_iff.mpr ⟨fun c hc => ht c (List.mem_of_mem_take hc), hTail⟩
    refine ⟨hDefect, tail, v, extract_eq_ok_iff.mpr ⟨?_, _, _, Base64.decode_encode _, hFree, rfl,
      hDocument⟩⟩
    exact List.all_eq_true.mp (Base64.encode_isAscii _)

/-- A character that is cut off, and a comma that no value follows. -/
theorem extract_rejects_cut :
    (∃ fault, extract "W+KC" = .error (.utf8 fault) ∧
      Utf8.FirstDefect [0x5B, 0xE2, 0x82] fault) ∧
    extract "WzEsCl0=" = .error (.json (.malformed .value 2 1 4)) ∧
      Json.FirstDefect "[1,\n]" 2 1 4 := by
  refine ⟨(extract_rejects (by decide) (by decide)).1 ?_, by decide, ?_⟩
  · intro hWellFormed
    obtain ⟨t, ht⟩ := Utf8.decode_of_wellFormed hWellFormed
    cases ht
  · exact ((extract_rejects (b := "WzEsCl0=") (by decide) (by decide)).2 "[1,\n]" (by decide) rfl
      .value 2 1 4 (by decide)).1

end DemurrageToken.Payload
