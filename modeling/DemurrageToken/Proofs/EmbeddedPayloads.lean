import DemurrageToken.Proofs.PayloadRoundTrip
import DemurrageToken.Proofs.StrictBase64
import DemurrageToken.Proofs.WireForms

/-! Embedding a payload has two ends. Without surrogates the payload becomes
strict base64; with one it fails, and the failure is located in the canonical
text, where escapes before the surrogates have moved them. A payload with too
long an integer has no canonical text to begin with. -/
namespace DemurrageToken

namespace Utf8

/-- The first maximal run of surrogates in a text: no surrogate stands before it
or right behind it. -/
inductive FirstRun : Text → SurrogateRun → Prop where
  | mk {before others after : Text} {first : CodePoint} (hBefore : before.SurrogateFree)
      (hFirst : first.isSurrogate = true) (hOthers : ∀ c ∈ others, c.isSurrogate = true)
      (hAfter : ∀ c, after.head? = some c → c.isSurrogate = false) :
      FirstRun (before ++ first :: (others ++ after)) ⟨before.length, first, others.length + 1⟩

/-- The search passes over text without surrogates, counting its code points. -/
theorem surrogateRun?_append {before : Text} (h : before.SurrogateFree) (position : Nat)
    (t : Text) :
    surrogateRun? position (before ++ t) = surrogateRun? (position + before.length) t := by
  induction before generalizing position with
  | nil => rfl
  | cons c before ih =>
      rw [Text.SurrogateFree.cons_iff] at h
      rw [List.cons_append, surrogateRun?, h.1, if_neg Bool.false_ne_true, ih h.2,
        List.length_cons, Nat.add_right_comm, Nat.add_assoc]

theorem surrogateRun?_of_firstRun {t : Text} {run : SurrogateRun} (h : FirstRun t run) :
    surrogateRun? 0 t = some run := by
  cases h with
  | @mk before others after first hBefore hFirst hOthers hAfter =>
      have hRun : (others ++ after).takeWhile CodePoint.isSurrogate = others := by
        rw [List.takeWhile_append_of_pos hOthers]
        cases after with
        | nil => exact List.append_nil _
        | cons c after => simp [hAfter c rfl]
      rw [surrogateRun?_append hBefore, surrogateRun?, if_pos hFirst,
        List.takeWhile_cons_of_pos hFirst, hRun, Nat.zero_add, List.length_cons]

/-- A text has a first run, unless it has no surrogate. -/
theorem exists_firstRun {t : Text} (h : ¬t.SurrogateFree) : ∃ run, FirstRun t run := by
  induction t with
  | nil => exact absurd .nil h
  | cons c t ih =>
      cases hc : c.isSurrogate with
      | true =>
          have hOthers : ∀ d ∈ t.takeWhile CodePoint.isSurrogate, d.isSurrogate = true :=
            fun d hd => List.mem_takeWhile_imp hd
          have hAfter : ∀ d, (t.dropWhile CodePoint.isSurrogate).head? = some d →
              d.isSurrogate = false := by
            intro d hd
            have hHead := List.head?_dropWhile_not CodePoint.isSurrogate t
            rw [hd] at hHead
            exact hHead
          have hRun := FirstRun.mk .nil hc hOthers hAfter
          rw [List.takeWhile_append_dropWhile] at hRun
          exact ⟨_, hRun⟩
      | false =>
          have hRest : ¬Text.SurrogateFree t := fun hFree =>
            h (Text.SurrogateFree.cons_iff.mpr ⟨hc, hFree⟩)
          obtain ⟨_, hBefore, hFirst, hOthers, hAfter⟩ := ih hRest
          exact ⟨_, .mk (Text.SurrogateFree.cons_iff.mpr ⟨hc, hBefore⟩) hFirst hOthers hAfter⟩

/-- Encoding fails at the first maximal run of surrogates. -/
theorem encode_eq_error_iff {t : Text} {run : SurrogateRun} :
    encode t = .error run ↔ FirstRun t run := by
  constructor
  · intro h
    have hSurrogates : ¬t.SurrogateFree := by
      intro hFree
      rw [encode_eq_ok_iff.mpr ⟨hFree, rfl⟩] at h
      cases h
    obtain ⟨first, hFirst⟩ := exists_firstRun hSurrogates
    rw [encode, surrogateRun?_of_firstRun hFirst] at h
    cases h
    exact hFirst
  · intro h
    rw [encode, surrogateRun?_of_firstRun h]

/-- The positions that the message gives are the first and the last of the run. A
single surrogate is itself shown, a longer run is not. -/
theorem FirstRun.message {t : Text} {run : SurrogateRun} (h : FirstRun t run) :
    ∃ last, run.position ≤ last ∧ run.length = last - run.position + 1 ∧
      run.message =
        if run.position = last then
          "'utf-8' codec can't encode character '\\u" ++ Text.hex 4 run.first.val
            ++ "' in position " ++ Text.ofNat run.position ++ ": surrogates not allowed"
        else
          "'utf-8' codec can't encode characters in position " ++ Text.ofNat run.position ++ "-"
            ++ Text.ofNat last ++ ": surrogates not allowed" := by
  cases h with
  | @mk before others after first =>
      refine ⟨before.length + others.length, by simp, by simp, ?_⟩
      have hOne : others.length + 1 = 1 ↔ before.length = before.length + others.length := by omega
      simp only [SurrogateRun.message, hOne, Nat.add_succ_sub_one]

end Utf8

namespace Payload

/-- Surrogates are reported where they stand in the canonical text, once there is
one. -/
theorem embed_eq_surrogates_iff {v : Json} {run : Utf8.SurrogateRun} :
    embed v = .error (.surrogates run) ↔ v.HasNumerals ∧ Utf8.FirstRun v.canonical run := by
  rw [embed, ← Json.hasNumerals_eq_true_iff, ← Utf8.encode_eq_error_iff]
  by_cases hNumerals : v.hasNumerals = true
  · simp [hNumerals, Except.mapError_eq_error_iff, Except.map_eq_error_iff]
  · simp [hNumerals]

/-- A message that carries a payload fails with its payload's failure, and only
then. -/
theorem toJson_eq_error_iff {m : Message} (h : m.operation.carriesPayload = true) :
    ∃ v, m.payload? = some v ∧ ∀ fault, m.toJson = .error fault ↔ embed v = .error fault := by
  obtain ⟨before, v, hValues, hBefore, hJson⟩ := Message.toJson_of_carriesPayload h
  refine ⟨v, ?_, fun fault => ?_⟩
  · rw [Message.payload?, Message.field?, hValues, Entries.lookup_concat hBefore]
  · rw [hJson, Except.map_eq_error_iff]

/-- A payload whose integers have numerals is embedded if and only if no string and
no name in it holds a surrogate, and then in strict base64 of the UTF-8 of its
canonical text. Otherwise it fails at the first maximal run of surrogates of that
text, and so do the two messages that carry it. -/
theorem embed_strict_or_located (v : Json) :
    ((∃ t, embed v = .ok t) ↔ v.HasNumerals ∧ v.SurrogateFree) ∧
    (∀ t, embed v = .ok t → Base64.Padded t ∧
      Base64.decodeStrict t = some (v.canonical.flatMap Utf8.encodeCodePoint)) ∧
    (embed v = .error .tooManyDigits ↔ ¬v.HasNumerals) ∧
    (∀ run, embed v = .error (.surrogates run) ↔
      v.HasNumerals ∧ Utf8.FirstRun v.canonical run) ∧
    (∀ run, embed v = .error (.surrogates run) → ∃ last, run.position ≤ last ∧
      run.length = last - run.position + 1 ∧
      run.message =
        if run.position = last then
          "'utf-8' codec can't encode character '\\u" ++ Text.hex 4 run.first.val
            ++ "' in position " ++ Text.ofNat run.position ++ ": surrogates not allowed"
        else
          "'utf-8' codec can't encode characters in position " ++ Text.ofNat run.position ++ "-"
            ++ Text.ofNat last ++ ": surrogates not allowed") ∧
    ∀ m : Message, m.operation = .send ∨ m.operation = .sendFrom →
      m.namedValues.lookup (Text.ofString "msg") = some v →
      ∀ fault, m.toJson = .error fault ↔ embed v = .error fault := by
  refine ⟨?_, ?_, embed_eq_tooManyDigits_iff, fun run => embed_eq_surrogates_iff, fun run hRun =>
    (embed_eq_surrogates_iff.mp hRun).2.message, ?_⟩
  · constructor
    · rintro ⟨t, ht⟩
      obtain ⟨hNumerals, hFree, -⟩ := embed_eq_ok_iff.mp ht
      exact ⟨hNumerals, hFree⟩
    · rintro ⟨hNumerals, hFree⟩
      exact ⟨_, embed_eq_ok_iff.mpr ⟨hNumerals, hFree, rfl⟩⟩
  · intro t ht
    obtain ⟨-, -, rfl⟩ := embed_eq_ok_iff.mp ht
    exact ⟨Base64.padded_encode _, Base64.decodeStrict_encode _⟩
  · intro m hOperation hPayload
    have hCarries : m.operation.carriesPayload = true := by
      rcases hOperation with h | h <;> rw [h] <;> rfl
    obtain ⟨w, hw, hFails⟩ := toJson_eq_error_iff hCarries
    obtain rfl : w = v := Option.some.inj (hw.symm.trans hPayload)
    exact hFails

/-- The escape of the quotation mark before the surrogates has moved them by one,
and the message around the payload fails in the same way. -/
theorem embed_strict_or_located_pair :
    let v : Json := .array [.string ['"', 'a', .surrogate 0, .surrogate 1024], .null]
    let m : Message := ⟨.send, [.string "wasm1x", .string "5", v], rfl⟩
    embed v = .error (.surrogates ⟨5, .surrogate 0, 2⟩) ∧
      m.toJson = .error (.surrogates ⟨5, .surrogate 0, 2⟩) ∧
      Utf8.SurrogateRun.message ⟨5, .surrogate 0, 2⟩ =
        "'utf-8' codec can't encode characters in position 5-6: surrogates not allowed" := by
  intro v m
  obtain ⟨-, -, -, hRun, hMessage, hSend⟩ := embed_strict_or_located v
  have hNumerals : v.HasNumerals := (Json.hasNumerals_eq_true_iff v).mp (by decide)
  have hFirst : Utf8.FirstRun v.canonical ⟨5, .surrogate 0, 2⟩ :=
    @Utf8.FirstRun.mk ['[', '"', '\\', '"', 'a'] [.surrogate 1024] "\",null]" _ (by decide) rfl
      (by decide) (by decide)
  have hEmbed := (hRun _).mpr ⟨hNumerals, hFirst⟩
  refine ⟨hEmbed, (hSend m (.inl rfl) rfl _).mpr hEmbed, ?_⟩
  obtain ⟨last, hOrder, hLength, hText⟩ := hMessage _ hEmbed
  obtain rfl : last = 6 := by simp only at hOrder hLength; omega
  exact hText

end Payload

end DemurrageToken
