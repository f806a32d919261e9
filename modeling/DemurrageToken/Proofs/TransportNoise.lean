import DemurrageToken.Proofs.PayloadRoundTrip
import DemurrageToken.Proofs.StrictBase64

/-! Noise in base64 text. The lenient reader passes over characters that are not
base64, and over padding before the second character of a group; it does not
look behind the padding that completes one. So a payload survives what a
transport puts into its binary form, as long as all of it is ASCII. -/
namespace DemurrageToken

namespace Base64

/-- The characters that base64 text is made of: the alphabet and the padding. -/
def isSymbol (c : CodePoint) : Bool := alphabet.contains c || c = .scalar '='

/-! ### Characters -/

/-- A character that stands for a sextet is its digit. -/
theorem digit_of_sextet? {c : CodePoint} {s : Sextet} (h : sextet? c = some s) : digit s = c := by
  -- No range of `sextet?` reaches beyond ASCII, where there are few characters to try.
  have hSmall : c.val < 128 := by
    by_contra hLarge
    rw [sextet?] at h
    simp only [show ¬c.val ≤ 90 by omega, show ¬c.val ≤ 122 by omega, show ¬c.val ≤ 57 by omega,
      show ¬c.val = 43 by omega, show ¬c.val = 47 by omega, and_false, if_false] at h
    cases h
  have hAll : ∀ n : Fin 128, (sextet? (.ofNat n)).all (digit · = .ofNat n) = true := by decide
  have hChar := hAll ⟨c.val, hSmall⟩
  rw [CodePoint.ofNat_val, h, Option.all_some, decide_eq_true_eq] at hChar
  exact hChar

theorem mem_alphabet_iff {c : CodePoint} : c ∈ alphabet ↔ ∃ s, digit s = c := by
  constructor
  · intro h
    obtain ⟨n, hn⟩ := Option.isSome_iff_exists.mp (List.isSome_idxOf?.mpr h)
    obtain ⟨s, -, hs⟩ := value?_eq_some_iff.mp hn
    exact ⟨s, hs⟩
  · rintro ⟨s, rfl⟩
    exact digit_mem_alphabet s

theorem sextet?_eq_none {c : CodePoint} (h : c ∉ alphabet) : sextet? c = none := by
  cases hs : sextet? c with
  | none => rfl
  | some s => exact absurd (mem_alphabet_iff.mpr ⟨s, digit_of_sextet? hs⟩) h

theorem isSymbol_eq_false_iff {c : CodePoint} :
    isSymbol c = false ↔ c ∉ alphabet ∧ c ≠ .scalar '=' := by
  simp [isSymbol]

/-! ### Reading one character -/

variable {filled pads : Nat} {t : Text}

/-- Noise is passed over, wherever it stands in a group. -/
theorem gather_cons_of_not_isSymbol {c : CodePoint} (h : isSymbol c = false) :
    gather filled pads (c :: t) = gather filled pads t := by
  obtain ⟨hAlphabet, hPad⟩ := isSymbol_eq_false_iff.mp h
  rw [gather, if_neg hPad, sextet?_eq_none hAlphabet]

/-- A padding mark counts where a group has two digits, and ends the text where it
fills the group. -/
theorem gather_pad (h : 2 ≤ filled) :
    gather filled pads (.scalar '=' :: t) =
      if 4 ≤ filled + (pads + 1) then ([], true) else gather filled (pads + 1) t := by
  rw [gather, if_pos rfl, if_pos h]

/-- A padding mark is noise where a group has fewer than two digits. -/
theorem gather_stray_pad (h : filled < 2) :
    gather filled pads (.scalar '=' :: t) = gather filled pads t := by
  rw [gather, if_pos rfl, if_neg (by omega)]

/-! ### Reading a text -/

/-- What is no symbol does not touch the group, its data or its padding. -/
theorem gather_filter (t : Text) (filled pads : Nat) :
    gather filled pads (t.filter isSymbol) = gather filled pads t := by
  induction t generalizing filled pads with
  | nil => rfl
  | cons c t ih =>
      cases hSymbol : isSymbol c with
      | false =>
          rw [List.filter_cons_of_neg (by simp [hSymbol]), ih, gather_cons_of_not_isSymbol hSymbol]
      | true =>
          rw [List.filter_cons_of_pos hSymbol, gather, gather]
          simp only [ih]

/-- Nothing is read behind the padding that completes a group. -/
theorem gather_append_of_closed (h : (gather filled pads t).2 = true) (tail : Text) :
    gather filled pads (t ++ tail) = gather filled pads t := by
  fun_induction gather filled pads t with
  | case1 => cases h
  | case2 filled pads rest hFilled hFull =>
      rw [List.cons_append, gather_pad hFilled, if_pos hFull]
  | case3 filled pads rest hFilled hOpen ih =>
      rw [List.cons_append, gather_pad hFilled, if_neg hOpen, ih h]
  | case4 filled pads rest hFilled ih =>
      rw [List.cons_append, gather_stray_pad (by omega), ih h]
  | case5 filled pads c rest hPad hNone ih =>
      rw [List.cons_append, gather, if_neg hPad, hNone, ih h]
  | case6 filled pads c rest hPad s hSome data closed hRest ih =>
      rw [hRest] at ih
      rw [List.cons_append, gather, if_neg hPad, hSome, ih h]

/-- Text that ends in padding completes a group by it. -/
theorem closed_of_getLast? {bytes : Bytes} (h : (encode bytes).getLast? = some (.scalar '=')) :
    (gather 0 0 (encode bytes)).2 = true := by
  fun_induction encode bytes with
  | case1 => cases h
  | case2 a =>
      rw [gather_digit, gather_digit]
      rfl
  | case3 a b =>
      rw [gather_digit, gather_digit, gather_digit]
      rfl
  | case4 a b c rest ih =>
      have hRest : (encode rest).getLast? = some (.scalar '=') := by
        simpa [List.getLast?_cons, Option.getD_eq_iff, digit_ne_pad] using h
      rw [gather_digit, gather_digit, gather_digit, gather_digit]
      exact ih hRest

/-- A text with noise in it. The group that is being read has `filled`
characters: among them go characters that are no symbols, and padding where it
is too early to count. -/
inductive Noisy : Nat → Text → Text → Prop where
  | nil (filled : Nat) : Noisy filled [] []
  | data {filled : Nat} {c : CodePoint} {t noisy : Text} (hData : c ∈ alphabet)
      (rest : Noisy ((filled + 1) % 4) t noisy) : Noisy filled (c :: t) (c :: noisy)
  | pad {filled : Nat} {t noisy : Text} (rest : Noisy filled t noisy) :
      Noisy filled (.scalar '=' :: t) (.scalar '=' :: noisy)
  | skipped {filled : Nat} {c : CodePoint} {t noisy : Text} (hSkipped : isSymbol c = false)
      (rest : Noisy filled t noisy) : Noisy filled t (c :: noisy)
  | stray {filled : Nat} {t noisy : Text} (hEarly : filled < 2) (rest : Noisy filled t noisy) :
      Noisy filled t (.scalar '=' :: noisy)

/-- Noise is read over. -/
theorem Noisy.gather_eq {noisy : Text} (h : Noisy filled t noisy) (pads : Nat) :
    gather filled pads noisy = gather filled pads t := by
  induction h generalizing pads with
  | nil => rfl
  | data hData rest ih =>
      obtain ⟨s, rfl⟩ := mem_alphabet_iff.mp hData
      rw [gather_digit, gather_digit, ih]
  | @pad filled t noisy rest ih =>
      by_cases hFilled : 2 ≤ filled
      · rw [gather_pad hFilled, gather_pad hFilled, ih]
      · rw [gather_stray_pad (by omega), gather_stray_pad (by omega), ih]
  | skipped hSkipped rest ih => rw [gather_cons_of_not_isSymbol hSkipped, ih]
  | stray hEarly rest ih => rw [gather_stray_pad hEarly, ih]

theorem decode_congr {t u : Text} (h : gather 0 0 t = gather 0 0 u) : decode t = decode u := by
  rw [decode, decode, h]

theorem decode_filter (t : Text) : decode (t.filter isSymbol) = decode t :=
  decode_congr (gather_filter t 0 0)

/-- Base64 text with noise in it, and with anything behind its padding if it
has some, holds the same bytes. -/
theorem decode_of_noisy {bytes : Bytes} {noisy tail : Text} (h : Noisy 0 (encode bytes) noisy)
    (hTail : tail = [] ∨ (encode bytes).getLast? = some (.scalar '=')) :
    decode (noisy ++ tail) = .ok bytes := by
  rw [← decode_encode bytes]
  refine decode_congr ?_
  rcases hTail with rfl | hPadded
  · rw [List.append_nil, h.gather_eq]
  · have hClosed : (gather 0 0 noisy).2 = true := by
      rw [h.gather_eq, closed_of_getLast? hPadded]
    rw [gather_append_of_closed hClosed, h.gather_eq]

end Base64

namespace Payload

theorem extract_congr {t u : Text} (ht : ∀ c ∈ t, c.isAscii = true) (hu : ∀ c ∈ u, c.isAscii = true)
    (h : Base64.decode t = Base64.decode u) : extract t = extract u := by
  rw [extract, extract, List.all_eq_true.mpr ht, List.all_eq_true.mpr hu, h]

/-- A character beyond ASCII is rejected before base64 is looked at. -/
theorem extract_beyond_ascii {t : Text} (h : ∃ c ∈ t, c.isAscii = false) :
    extract t = .error .notAscii := by
  have hAll : t.all CodePoint.isAscii = false := by simpa using h
  rw [extract, hAll]
  rfl

/-- Noise is harmless within ASCII. A text is read as if it had only its symbols,
with the same fault if it has one. A payload is read back from its binary form
with noise in it, and with any text behind the padding if it is padded; what is
not ASCII is refused wherever it stands. -/
theorem extract_of_noisy :
    (∀ t : Text, (∀ c ∈ t, c.isAscii = true) →
      extract t = extract (t.filter Base64.isSymbol)) ∧
    ∀ v : Json, v.Portable → ∃ t, embed v = .ok t ∧ ∀ noisy tail, Base64.Noisy 0 t noisy →
      (tail = [] ∨ t.getLast? = some (.scalar '=')) →
      ((∀ c ∈ noisy ++ tail, c.isAscii = true) → extract (noisy ++ tail) = .ok v) ∧
      ((∃ c ∈ noisy ++ tail, c.isAscii = false) →
        extract (noisy ++ tail) = .error .notAscii) := by
  constructor
  · intro t ht
    have hSymbols : ∀ c ∈ t.filter Base64.isSymbol, c.isAscii = true := fun c hc =>
      ht c (List.mem_of_mem_filter hc)
    exact extract_congr ht hSymbols (Base64.decode_filter t).symm
  · intro v hv
    refine ⟨_, embed_of_portable hv, fun noisy tail hNoisy hTail =>
      ⟨fun hAscii => ?_, extract_beyond_ascii⟩⟩
    rw [← extract_of_portable hv]
    refine extract_congr hAscii (List.all_eq_true.mp (Base64.encode_isAscii _)) ?_
    rw [Base64.decode_of_noisy hNoisy hTail, Base64.decode_encode]

/-- Padding that comes too early, white space and whatever stands behind the
padding make no difference. A sextet that is left over stays one. -/
theorem extract_of_noisy_padded :
    extract "=\nM==\tQ= =?Zz9" = .ok (.int 1) ∧
      extract " Q?" = extract "Q" ∧ extract "Q" = .error (.base64 (.leftover 1)) := by
  obtain ⟨hFilter, hNoisy⟩ := extract_of_noisy
  obtain ⟨t, ht, hRead⟩ := hNoisy (.int 1) (.int (by decide))
  obtain rfl : t = "MQ==" := Except.ok.inj (ht.symm.trans (by decide))
  have hNoise : Base64.Noisy 0 "MQ==" ['=', '\n', 'M', '=', '=', '\t', 'Q', '=', ' ', '='] :=
    .stray (by decide) (.skipped (by decide) (.data (by decide) (.stray (by decide)
      (.stray (by decide) (.skipped (by decide) (.data (by decide) (.pad (.skipped (by decide)
        (.pad (.nil _))))))))))
  exact ⟨(hRead _ "?Zz9" hNoise (.inr (by decide))).1 (by decide), hFilter _ (by decide), by decide⟩

/-- A letter beyond ASCII is no symbol either, but it is refused. -/
theorem extract_noise_beyond_ascii :
    (Json.int 1).Portable ∧ embed (.int 1) = .ok "MQ==" ∧ Base64.Noisy 0 "MQ==" "éMQ==" ∧
      extract "éMQ==" = .error .notAscii ∧ extract "éMQ==" ≠ .ok (.int 1) := by
  have hSame : Base64.Noisy 0 "MQ==" "MQ==" :=
    .data (by decide) (.data (by decide) (.pad (.pad (.nil _))))
  exact ⟨.int (by decide), by decide, .skipped (by decide) hSame, by decide, by decide⟩

end Payload

end DemurrageToken
