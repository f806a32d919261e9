import DemurrageToken.Text.Utf8

/-! Code points and their UTF-8. The strict decoder accepts exactly the byte
sequences that the encoder produces from texts without surrogates, and gives
those texts back. The shortest-form rules live in `Sequence`, which mentions
neither the encoder nor the decoder. -/
namespace DemurrageToken

namespace CodePoint

theorem scalar_toNat (char : Char) :
    char.toNat < 0xD800 ∨ 0xDFFF < char.toNat ∧ char.toNat ≤ 0x10FFFF := by
  have hValid : char.toNat.isValidChar := char.valid
  unfold Nat.isValidChar at hValid
  omega

/-- No code point has a number above U+10FFFF. -/
theorem val_le (c : CodePoint) : c.val ≤ 0x10FFFF := by
  cases c with
  | scalar char =>
      have hRange := scalar_toNat char
      simp only [val]
      omega
  | surrogate index =>
      have hIndex := index.isLt
      simp only [val]
      omega

/-- The surrogates are the code points of one range of numbers. -/
theorem isSurrogate_iff (c : CodePoint) :
    c.isSurrogate = true ↔ 0xD800 ≤ c.val ∧ c.val ≤ 0xDFFF := by
  cases c with
  | scalar char =>
      have hRange := scalar_toNat char
      simp only [val, isSurrogate, Bool.false_eq_true, false_iff]
      omega
  | surrogate index =>
      have hIndex := index.isLt
      simp only [val, isSurrogate, true_iff]
      omega

/-- A code point is determined by its number. Scalar values and surrogates
share no number. -/
theorem val_injective {c d : CodePoint} (h : c.val = d.val) : c = d := by
  have hKind : c.isSurrogate = d.isSurrogate := by
    rw [Bool.eq_iff_iff, isSurrogate_iff, isSurrogate_iff, h]
  cases c <;> cases d
  · exact congrArg scalar (Char.toNat_inj.mp h)
  · cases hKind
  · cases hKind
  · simp only [val] at h
    exact congrArg surrogate (Fin.ext (by omega))

/-- Up to U+10FFFF every number has a code point. -/
theorem val_ofNat {n : Nat} (h : n ≤ 0x10FFFF) : (ofNat n).val = n := by
  unfold ofNat
  split
  · simp only [val, Fin.ofNat]
    omega
  · have hValid : n.isValidChar := by unfold Nat.isValidChar; omega
    have hChar : Char.ofNat n = Char.ofNatAux n hValid := dif_pos hValid
    rw [hChar]
    rfl

@[simp] theorem ofNat_val (c : CodePoint) : ofNat c.val = c :=
  val_injective (val_ofNat c.val_le)

theorem isSurrogate_ofNat {n : Nat} (hMax : n ≤ 0x10FFFF) (h : ¬(0xD800 ≤ n ∧ n ≤ 0xDFFF)) :
    (ofNat n).isSurrogate = false := by
  rw [← Bool.not_eq_true, isSurrogate_iff, val_ofNat hMax]
  exact h

theorem isSurrogate_of_isAscii {c : CodePoint} (h : c.isAscii = true) : c.isSurrogate = false := by
  rw [← Bool.not_eq_true, isSurrogate_iff]
  simp only [isAscii, decide_eq_true_eq] at h
  omega

/-- What holds of all numbers below 128 holds of all of ASCII. -/
theorem of_forall_ascii {p : CodePoint → Prop}
    (h : ∀ n : Fin 128, p (ofNat n.val)) {c : CodePoint} (hc : c.isAscii = true) :
    p c := by
  have hLt : c.val < 128 := by simpa [isAscii] using hc
  have hNumber := h ⟨c.val, hLt⟩
  rwa [ofNat_val] at hNumber

end CodePoint

/-- A text of Unicode scalar values. -/
def Text.SurrogateFree (t : Text) : Prop := ∀ c ∈ t, c.isSurrogate = false

instance (t : Text) : Decidable t.SurrogateFree :=
  inferInstanceAs (Decidable (∀ c ∈ t, c.isSurrogate = false))

namespace Text.SurrogateFree

theorem nil : SurrogateFree [] := by simp [SurrogateFree]

theorem cons_iff {c : CodePoint} {t : Text} :
    SurrogateFree (c :: t) ↔ c.isSurrogate = false ∧ SurrogateFree t := by
  simp [SurrogateFree]

theorem append_iff {t u : Text} :
    SurrogateFree (t ++ u) ↔ SurrogateFree t ∧ SurrogateFree u := by
  simp [SurrogateFree, or_imp, forall_and]

theorem ofChars (cs : List Char) : SurrogateFree (Text.ofChars cs) := by
  simp [SurrogateFree, Text.ofChars, CodePoint.isSurrogate]

theorem of_all_isAscii {t : Text} (h : t.all CodePoint.isAscii = true) : SurrogateFree t :=
  fun c hc => CodePoint.isSurrogate_of_isAscii (List.all_eq_true.mp h c hc)

end Text.SurrogateFree

namespace Utf8

/-- The bytes of one scalar value in shortest form, given by the number alone. -/
inductive Sequence : Bytes → Nat → Prop where
  | one {a : UInt8} {n : Nat} (hn : n < 0x80) (ha : a.toNat = n) : Sequence [a] n
  | two {a b : UInt8} {n : Nat} (hn : 0x80 ≤ n ∧ n < 0x800)
      (ha : a.toNat = 0xC0 + n / 0x40) (hb : b.toNat = 0x80 + n % 0x40) : Sequence [a, b] n
  | three {a b c : UInt8} {n : Nat} (hn : 0x800 ≤ n ∧ n < 0x10000)
      (hScalar : ¬(0xD800 ≤ n ∧ n ≤ 0xDFFF)) (ha : a.toNat = 0xE0 + n / 0x1000)
      (hb : b.toNat = 0x80 + n / 0x40 % 0x40) (hc : c.toNat = 0x80 + n % 0x40) :
      Sequence [a, b, c] n
  | four {a b c d : UInt8} {n : Nat} (hn : 0x10000 ≤ n ∧ n ≤ 0x10FFFF)
      (ha : a.toNat = 0xF0 + n / 0x40000) (hb : b.toNat = 0x80 + n / 0x1000 % 0x40)
      (hc : c.toNat = 0x80 + n / 0x40 % 0x40) (hd : d.toNat = 0x80 + n % 0x40) :
      Sequence [a, b, c, d] n

/-! ### The encoder -/

theorem toNat_ofNat {n : Nat} (h : n < 0x100) : (UInt8.ofNat n).toNat = n := by
  rw [UInt8.toNat_ofNat']
  omega

theorem eq_ofNat {b : UInt8} {n : Nat} (h : b.toNat = n) : b = UInt8.ofNat n := by
  rw [← h, UInt8.ofNat_toNat]

/-- The encoder writes the shortest form of a scalar value. -/
theorem sequence_encodeCodePoint {c : CodePoint} (hc : c.isSurrogate = false) :
    Sequence (encodeCodePoint c) c.val := by
  have hMax := c.val_le
  have hScalar : ¬(0xD800 ≤ c.val ∧ c.val ≤ 0xDFFF) := by
    rw [← c.isSurrogate_iff, hc]
    decide
  simp only [encodeCodePoint]
  split
  · next hOne => exact .one hOne (toNat_ofNat (by omega))
  split
  · next hTwo => exact .two ⟨by omega, hTwo⟩ (toNat_ofNat (by omega)) (toNat_ofNat (by omega))
  split
  · next hThree =>
      exact .three ⟨by omega, hThree⟩ hScalar (toNat_ofNat (by omega)) (toNat_ofNat (by omega))
        (toNat_ofNat (by omega))
  · exact .four ⟨by omega, hMax⟩ (toNat_ofNat (by omega)) (toNat_ofNat (by omega))
      (toNat_ofNat (by omega)) (toNat_ofNat (by omega))

/-- A number has one shortest form, and that is what the encoder writes. -/
theorem Sequence.eq_encodeCodePoint {bytes : Bytes} {n : Nat} (h : Sequence bytes n) :
    (CodePoint.ofNat n).isSurrogate = false ∧ bytes = encodeCodePoint (CodePoint.ofNat n) := by
  have hMax : n ≤ 0x10FFFF := by cases h <;> omega
  have hScalar : ¬(0xD800 ≤ n ∧ n ≤ 0xDFFF) := by cases h <;> omega
  refine ⟨CodePoint.isSurrogate_ofNat hMax hScalar, ?_⟩
  simp only [encodeCodePoint, CodePoint.val_ofNat hMax]
  cases h with
  | one hn ha => rw [if_pos hn, eq_ofNat ha]
  | two hn ha hb => rw [if_neg (by omega), if_pos hn.2, eq_ofNat ha, eq_ofNat hb]
  | three hn _ ha hb hc =>
      rw [if_neg (by omega), if_neg (by omega), if_pos hn.2, eq_ofNat ha, eq_ofNat hb,
        eq_ofNat hc]
  | four hn ha hb hc hd =>
      rw [if_neg (by omega), if_neg (by omega), if_neg (by omega), eq_ofNat ha, eq_ofNat hb,
        eq_ofNat hc, eq_ofNat hd]

/-- The search for surrogates finds none only where there is none, at whatever
position it starts to count. -/
theorem surrogateRun?_eq_none_iff (position : Nat) (t : Text) :
    surrogateRun? position t = none ↔ t.SurrogateFree := by
  induction t generalizing position with
  | nil => simp [surrogateRun?, Text.SurrogateFree]
  | cons c t ih =>
      rw [surrogateRun?, Text.SurrogateFree.cons_iff]
      cases hc : c.isSurrogate with
      | true => simp
      | false => simpa using ih (position + 1)

/-- Encoding succeeds exactly without surrogates, and then code point by code point. -/
theorem encode_eq_ok_iff {t : Text} {bytes : Bytes} :
    encode t = .ok bytes ↔ t.SurrogateFree ∧ bytes = t.flatMap encodeCodePoint := by
  rw [encode, ← surrogateRun?_eq_none_iff 0]
  cases hRun : surrogateRun? 0 t with
  | some run => simp
  | none => simp [eq_comm]

/-! ### One segment of the decoder -/

theorem follow_zero (taken rest : Bytes) (bits low high : Nat) :
    follow taken bits low high 0 rest = .character (CodePoint.ofNat bits) taken.length := by
  simp only [follow]

/-- A byte in the expected range adds six bits, and after it all ranges are the usual
one. -/
theorem follow_cons {taken rest : Bytes} {bits low high owed : Nat} {b : UInt8}
    (h : low ≤ b.toNat ∧ b.toNat ≤ high) :
    follow taken bits low high (owed + 1) (b :: rest) =
      follow (b :: taken) (bits * 0x40 + (b.toNat - 0x80)) 0x80 0xBF owed rest := by
  simp only [follow]
  rw [if_pos h]

theorem segment_one {b : UInt8} (h : b.toNat < 0x80) (rest : Bytes) :
    segment false b rest = .character (CodePoint.ofNat b.toNat) 1 := by
  simp only [segment, lead?]
  rw [if_pos h]
  exact follow_zero ..

/-- A byte from 0xC2 on announces one more; the two below it would only lead to forms
that are too long. -/
theorem segment_two {b : UInt8} (hLow : 0xC2 ≤ b.toNat) (hHigh : b.toNat < 0xE0)
    (rest : Bytes) :
    segment false b rest = follow [b] (b.toNat - 0xC0) 0x80 0xBF 1 rest := by
  simp only [segment, lead?]
  rw [if_neg (by omega), if_neg (by omega), if_pos hHigh]

/-- A byte from 0xE0 on announces two more. The first of these is restricted where
the form would be too long or the number a surrogate. -/
theorem segment_three {b : UInt8} (hLow : 0xE0 ≤ b.toNat) (hHigh : b.toNat < 0xF0)
    (rest : Bytes) :
    segment false b rest = follow [b] (b.toNat - 0xE0) (if b.toNat = 0xE0 then 0xA0 else 0x80)
      (if b.toNat = 0xED then 0x9F else 0xBF) 2 rest := by
  simp only [segment, lead?]
  rw [if_neg (by omega), if_neg (by omega), if_neg (by omega), if_pos hHigh]
  simp

/-- A byte from 0xF0 on announces three more. The first of these is restricted where
the form would be too long or the number above U+10FFFF. -/
theorem segment_four {b : UInt8} (hLow : 0xF0 ≤ b.toNat) (hHigh : b.toNat < 0xF5)
    (rest : Bytes) :
    segment false b rest = follow [b] (b.toNat - 0xF0) (if b.toNat = 0xF0 then 0x90 else 0x80)
      (if b.toNat = 0xF4 then 0x8F else 0xBF) 3 rest := by
  simp only [segment, lead?]
  rw [if_neg (by omega), if_neg (by omega), if_neg (by omega), if_neg (by omega), if_pos hHigh]

/-- Continuation bytes, the lead bytes of overlong pairs and those above
`U+10FFFF` begin nothing. -/
theorem segment_invalidStart {b : UInt8}
    (h : 0x80 ≤ b.toNat ∧ b.toNat < 0xC2 ∨ 0xF5 ≤ b.toNat) (rest : Bytes) :
    segment false b rest = .illFormed .invalidStart [b] := by
  have hLead : lead? false b = none := by
    simp only [lead?]
    rcases h with ⟨hLow, hHigh⟩ | hLow
    · rw [if_neg (by omega), if_pos hHigh]
    · rw [if_neg (by omega), if_neg (by omega), if_neg (by omega), if_neg (by omega),
        if_neg (by omega)]
  simp only [segment, hLead]

/-- Whatever follows it, a well-formed sequence is read as one character. -/
theorem Sequence.segment_eq {b : UInt8} {tail : Bytes} {n : Nat} (h : Sequence (b :: tail) n)
    (rest : Bytes) :
    segment false b (tail ++ rest) = .character (CodePoint.ofNat n) (tail.length + 1) := by
  cases h with
  | one hn ha =>
      rw [segment_one (by omega), ha]
      rfl
  | @two _ b₁ _ hn ha hb =>
      have hBits : (b.toNat - 0xC0) * 0x40 + (b₁.toNat - 0x80) = n := by omega
      rw [segment_two (by omega) (by omega), List.cons_append, follow_cons (by omega), hBits,
        follow_zero]
      rfl
  | @three _ b₁ b₂ _ hn hScalar ha hb hc =>
      have hBits :
          ((b.toNat - 0xE0) * 0x40 + (b₁.toNat - 0x80)) * 0x40 + (b₂.toNat - 0x80) = n := by
        omega
      rw [segment_three (by omega) (by omega), List.cons_append,
        follow_cons (by split <;> split <;> omega), List.cons_append, follow_cons (by omega),
        hBits, follow_zero]
      rfl
  | @four _ b₁ b₂ b₃ _ hn ha hb hc hd =>
      have hBits : (((b.toNat - 0xF0) * 0x40 + (b₁.toNat - 0x80)) * 0x40 + (b₂.toNat - 0x80)) * 0x40
          + (b₃.toNat - 0x80) = n := by
        omega
      rw [segment_four (by omega) (by omega), List.cons_append,
        follow_cons (by split <;> split <;> omega), List.cons_append, follow_cons (by omega),
        List.cons_append, follow_cons (by omega), hBits, follow_zero]
      rfl

/-- A character that is still owed bytes gets the next one from the range that is
expected. -/
theorem follow_eq_character {taken rest : Bytes} {bits low high owed w : Nat} {c : CodePoint}
    (h : follow taken bits low high (owed + 1) rest = .character c w) :
    ∃ b more, rest = b :: more ∧ (low ≤ b.toNat ∧ b.toNat ≤ high) ∧
      follow (b :: taken) (bits * 0x40 + (b.toNat - 0x80)) 0x80 0xBF owed more =
        .character c w := by
  cases rest with
  | nil => simp [follow] at h
  | cons b more =>
      rw [follow] at h
      split at h
      · next hb => exact ⟨b, more, rfl, hb, h⟩
      · cases h

theorem follow_zero_eq_character {taken rest : Bytes} {bits low high w : Nat} {c : CodePoint}
    (h : follow taken bits low high 0 rest = .character c w) :
    c = CodePoint.ofNat bits ∧ w = taken.length := by
  rw [follow_zero, Segment.character.injEq] at h
  exact ⟨h.1.symm, h.2.symm⟩

/-- A character that is read stands in shortest form at the front. The bounds
on the second byte exclude overlong forms, surrogates and large numbers. -/
theorem segment_eq_character {b : UInt8} {rest : Bytes} {c : CodePoint} {w : Nat}
    (h : segment false b rest = .character c w) :
    ∃ tail more n, rest = tail ++ more ∧ c = CodePoint.ofNat n ∧ w = tail.length + 1 ∧
      Sequence (b :: tail) n := by
  by_cases h₁ : b.toNat < 0x80
  · rw [segment_one h₁] at h
    cases h
    exact ⟨[], rest, b.toNat, rfl, rfl, rfl, .one h₁ rfl⟩
  by_cases h₂ : b.toNat < 0xC2
  · rw [segment_invalidStart (by omega)] at h
    cases h
  by_cases h₃ : b.toNat < 0xE0
  · rw [segment_two (by omega) h₃] at h
    obtain ⟨b₁, more, rfl, hb₁, h⟩ := follow_eq_character h
    obtain ⟨hc, hw⟩ := follow_zero_eq_character h
    exact ⟨[b₁], more, _, rfl, hc, hw, .two (by omega) (by omega) (by omega)⟩
  by_cases h₄ : b.toNat < 0xF0
  · rw [segment_three (by omega) h₄] at h
    obtain ⟨b₁, more, rfl, hb₁, h⟩ := follow_eq_character h
    obtain ⟨b₂, more, rfl, hb₂, h⟩ := follow_eq_character h
    obtain ⟨hc, hw⟩ := follow_zero_eq_character h
    have hOverlong : b.toNat = 0xE0 → 0xA0 ≤ b₁.toNat := fun hb => by simpa [hb] using hb₁.1
    have hSurrogate : b.toNat = 0xED → b₁.toNat ≤ 0x9F := fun hb => by simpa [hb] using hb₁.2
    have hRange : 0x80 ≤ b₁.toNat ∧ b₁.toNat ≤ 0xBF := by
      split at hb₁ <;> split at hb₁ <;> omega
    exact ⟨[b₁, b₂], more, _, rfl, hc, hw,
      .three (by omega) (by omega) (by omega) (by omega) (by omega)⟩
  by_cases h₅ : b.toNat < 0xF5
  · rw [segment_four (by omega) h₅] at h
    obtain ⟨b₁, more, rfl, hb₁, h⟩ := follow_eq_character h
    obtain ⟨b₂, more, rfl, hb₂, h⟩ := follow_eq_character h
    obtain ⟨b₃, more, rfl, hb₃, h⟩ := follow_eq_character h
    obtain ⟨hc, hw⟩ := follow_zero_eq_character h
    have hOverlong : b.toNat = 0xF0 → 0x90 ≤ b₁.toNat := fun hb => by simpa [hb] using hb₁.1
    have hGreatest : b.toNat = 0xF4 → b₁.toNat ≤ 0x8F := fun hb => by simpa [hb] using hb₁.2
    have hRange : 0x80 ≤ b₁.toNat ∧ b₁.toNat ≤ 0xBF := by
      split at hb₁ <;> split at hb₁ <;> omega
    exact ⟨[b₁, b₂, b₃], more, _, rfl, hc, hw,
      .four (by omega) (by omega) (by omega) (by omega) (by omega)⟩
  · rw [segment_invalidStart (by omega)] at h
    cases h

/-! ### The whole byte sequence -/

/-- Bytes that a segment has taken are not looked at again. -/
theorem segmentsAfter_append (surrogates : Bool) (taken rest : Bytes) :
    segmentsAfter surrogates taken.length (taken ++ rest) = segmentsAfter surrogates 0 rest := by
  induction taken with
  | nil => rfl
  | cons b taken ih => simpa [segmentsAfter] using ih

/-- What the encoder wrote for a code point is one segment, whatever stands behind
it. -/
theorem segmentsAfter_encodeCodePoint {c : CodePoint} (hc : c.isSurrogate = false)
    (rest : Bytes) :
    ∃ w, segmentsAfter false 0 (encodeCodePoint c ++ rest) =
      .character c w :: segmentsAfter false 0 rest := by
  have hSequence := sequence_encodeCodePoint hc
  cases hBytes : encodeCodePoint c with
  | nil => rw [hBytes] at hSequence; cases hSequence
  | cons b tail =>
      rw [hBytes] at hSequence
      refine ⟨tail.length + 1, ?_⟩
      rw [List.cons_append, segmentsAfter, hSequence.segment_eq, CodePoint.ofNat_val]
      exact congrArg _ (segmentsAfter_append false tail rest)

/-- Decoding undoes encoding. -/
theorem assemble_encode {t : Text} (h : t.SurrogateFree) (position : Nat) :
    assemble position (segmentsAfter false 0 (t.flatMap encodeCodePoint)) = .ok t := by
  induction t generalizing position with
  | nil => rfl
  | cons c t ih =>
      obtain ⟨hc, ht⟩ := Text.SurrogateFree.cons_iff.mp h
      obtain ⟨w, hFirst⟩ := segmentsAfter_encodeCodePoint hc (t.flatMap encodeCodePoint)
      rw [List.flatMap_cons, hFirst, assemble, ih ht]
      rfl

/-- The induction is on a bound on the bytes, since a character takes up to
four of them at once. -/
theorem assemble_eq_ok {bound position : Nat} {bytes : Bytes} {t : Text}
    (hBound : bytes.length ≤ bound)
    (h : assemble position (segmentsAfter false 0 bytes) = .ok t) :
    t.SurrogateFree ∧ bytes = t.flatMap encodeCodePoint := by
  induction bound generalizing position bytes t with
  | zero =>
      rw [List.length_eq_zero_iff.mp (Nat.le_zero.mp hBound)] at h ⊢
      cases h
      exact ⟨.nil, rfl⟩
  | succ bound ih =>
      cases bytes with
      | nil =>
          cases h
          exact ⟨.nil, rfl⟩
      | cons b rest =>
          rw [segmentsAfter] at h
          cases hSegment : segment false b rest with
          | illFormed reason bad =>
              rw [hSegment] at h
              cases h
          | character c w =>
              obtain ⟨tail, more, n, rfl, rfl, rfl, hSequence⟩ := segment_eq_character hSegment
              obtain ⟨hScalar, hBytes⟩ := hSequence.eq_encodeCodePoint
              simp only [hSegment, Segment.width, Nat.add_sub_cancel, segmentsAfter_append,
                assemble] at h
              cases hRest : assemble (position + (tail.length + 1))
                  (segmentsAfter false 0 more) with
              | error fault =>
                  rw [hRest] at h
                  cases h
              | ok u =>
                  rw [hRest] at h
                  cases h
                  have hShorter : more.length ≤ bound := by
                    simp only [List.length_cons, List.length_append] at hBound
                    omega
                  obtain ⟨hu, rfl⟩ := ih hShorter hRest
                  refine ⟨Text.SurrogateFree.cons_iff.mpr ⟨hScalar, hu⟩, ?_⟩
                  rw [List.flatMap_cons, ← hBytes, List.cons_append]

/-- Strict reading accepts exactly what writing produces. -/
theorem decode_eq_ok_iff {bytes : Bytes} {t : Text} :
    decode bytes = .ok t ↔ t.SurrogateFree ∧ bytes = t.flatMap encodeCodePoint := by
  constructor
  · exact assemble_eq_ok (Nat.le_refl _)
  · rintro ⟨ht, rfl⟩
    exact assemble_encode ht 0

end Utf8

end DemurrageToken
