import DemurrageToken.Proofs.Base64
import DemurrageToken.Proofs.JsonReading
import DemurrageToken.Proofs.JsonWriting
import DemurrageToken.Proofs.Messages

/-! Payloads as a contract hands them on. What is accepted is exactly the base64
of the UTF-8 of a JSON text, and what is embedded reads back as the same value. -/
namespace DemurrageToken.Payload

/-- The three readers in a row, behind the check for ASCII. -/
theorem extract_eq_ok_iff_readers {b : Text} {v : Json} :
    extract b = .ok v ↔ b.all CodePoint.isAscii = true ∧ ∃ bytes t,
      Base64.decode b = .ok bytes ∧ Utf8.decode bytes = .ok t ∧ Json.read t = .ok v := by
  rw [extract]
  cases b.all CodePoint.isAscii with
  | false => simp [bind, Except.bind, throw, throwThe, MonadExceptOf.throw]
  | true =>
      simp only [Bool.not_true, Bool.false_eq_true, if_false, Except.bind_eq_ok_iff,
        Except.mapError_eq_ok_iff, true_and]
      refine exists_congr fun bytes => ?_
      simp only [← exists_and_left]

/-- Binary data is accepted if and only if it is ASCII, decodes as base64, and
holds the UTF-8 encoding of a text that derives the value in the grammar. -/
theorem extract_eq_ok_iff {b : Text} {v : Json} :
    extract b = .ok v ↔ (∀ c ∈ b, c.isAscii = true) ∧ ∃ bytes t,
      Base64.decode b = .ok bytes ∧ t.SurrogateFree ∧ bytes = t.flatMap Utf8.encodeCodePoint ∧
        Json.Grammar.Document t v := by
  simp only [extract_eq_ok_iff_readers, List.all_eq_true, Utf8.decode_eq_ok_iff,
    Json.read_eq_ok_iff, and_assoc]

theorem canonical_surrogateFree_iff (v : Json) : v.canonical.SurrogateFree ↔ v.SurrogateFree :=
  Json.surrogateFree_writeAt_iff rfl (.ofChars _) (.ofChars _) v 0

/-- A value is embedded if and only if its integers have numerals and it is free of
surrogates, and then as the base64 of the UTF-8 of its canonical text. -/
theorem embed_eq_ok_iff {v : Json} {t : Text} :
    embed v = .ok t ↔ v.HasNumerals ∧ v.SurrogateFree ∧
      t = Base64.encode (v.canonical.flatMap Utf8.encodeCodePoint) := by
  rw [embed, ← Json.hasNumerals_eq_true_iff]
  by_cases hNumerals : v.hasNumerals = true
  · rw [if_pos hNumerals, Except.mapError_eq_ok_iff, Except.map_eq_ok_iff]
    simp only [Utf8.encode_eq_ok_iff, canonical_surrogateFree_iff, hNumerals, true_and]
    constructor
    · rintro ⟨bytes, ⟨hFree, rfl⟩, rfl⟩
      exact ⟨hFree, rfl⟩
    · rintro ⟨hFree, rfl⟩
      exact ⟨_, ⟨hFree, rfl⟩, rfl⟩
  · simp [hNumerals]

/-- An integer with too many digits comes before everything else. -/
theorem embed_eq_tooManyDigits_iff {v : Json} :
    embed v = .error .tooManyDigits ↔ ¬v.HasNumerals := by
  rw [embed, ← Json.hasNumerals_eq_true_iff]
  by_cases hNumerals : v.hasNumerals = true
  · simp [hNumerals, Except.mapError_eq_error_iff]
  · simp [hNumerals]

theorem embed_of_portable {v : Json} (hv : v.Portable) :
    embed v = .ok (Base64.encode (v.canonical.flatMap Utf8.encodeCodePoint)) :=
  embed_eq_ok_iff.mpr ⟨hv.hasNumerals, hv.surrogateFree, rfl⟩

/-- The base64 of the canonical text of a portable value gives the value back. -/
theorem extract_of_portable {v : Json} (hv : v.Portable) :
    extract (Base64.encode (v.canonical.flatMap Utf8.encodeCodePoint)) = .ok v := by
  have hFree := (canonical_surrogateFree_iff v).mpr hv.surrogateFree
  refine extract_eq_ok_iff_readers.mpr ⟨Base64.encode_isAscii _, _, v.canonical,
    Base64.decode_encode _, Utf8.decode_eq_ok_iff.mpr ⟨hFree, rfl⟩, ?_⟩
  exact Json.read_eq_ok_iff.mpr (Json.document_write Json.Style.regular_canonical hv)

/-- A portable value survives the trip through its binary form unchanged, on
its own and as the payload of a message. -/
theorem extract_embed {v : Json} (hv : v.Portable) :
    (∃ t, embed v = .ok t ∧ extract t = .ok v) ∧
      ∀ m : Message, m.operation.carriesPayload = true →
        m.namedValues.lookup (Text.ofString "msg") = some v →
        ∃ t fields, m.toJson = .ok (.object [(m.operation.tag, .object fields)]) ∧
          fields.lookup (Text.ofString "msg") = some (.string t) ∧ extract t = .ok v := by
  have hEmbed := embed_of_portable hv
  have hExtract := extract_of_portable hv
  refine ⟨⟨_, hEmbed, hExtract⟩, fun m hm hPayload => ?_⟩
  obtain ⟨before, v', hValues, hBefore, hJson⟩ := Message.toJson_of_carriesPayload hm
  rw [hValues, Entries.lookup_concat hBefore] at hPayload
  cases hPayload
  rw [hEmbed] at hJson
  exact ⟨_, _, hJson, Entries.lookup_concat hBefore _, hExtract⟩

/-- Negative zero, a name beyond ASCII and the order of the members are kept. -/
theorem extract_embed_members :
    let v : Json := .object [("ü", .array [.float (.finite true 0), .null]), ("a", .int (-7))]
    v.Portable ∧ ∃ t, embed v = .ok t ∧ extract t = .ok v := by
  have hArray : (Json.array [.float (.finite true 0), .null]).Portable := by
    refine .array fun x hx => ?_
    rcases List.mem_pair.mp hx with rfl | rfl
    · exact .float _
    · exact .null
  have hv : (Json.object [("ü", .array [.float (.finite true 0), .null]),
      ("a", .int (-7))]).Portable := by
    refine .object (by decide) (by decide) fun x hx => ?_
    rcases List.mem_pair.mp hx with rfl | rfl
    · exact hArray
    · exact .int (by decide)
  exact ⟨hv, (extract_embed hv).1⟩

end DemurrageToken.Payload
