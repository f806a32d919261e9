import DemurrageToken.Percent
import DemurrageToken.Proofs.Utf8

/-! Percent-encoding is undone by decoding, as long as the mark itself is not
kept; text that is kept throughout stays as it is. -/
namespace DemurrageToken.Percent

/-- A text is left alone if all of it may stand for itself. -/
theorem encode_of_keeps {keeps : CodePoint → Bool} {t : Text} (h : ∀ c ∈ t, keeps c = true) :
    encode keeps t = t := by
  induction t with
  | nil => rfl
  | cons c t ih =>
      have hTail := ih fun d hd => h d (List.mem_cons_of_mem _ hd)
      rw [encode, List.flatMap_cons, if_pos (h c (List.mem_cons_self ..))]
      exact congrArg _ hTail

theorem encode_append (keeps : CodePoint → Bool) (t u : Text) :
    encode keeps (t ++ u) = encode keeps t ++ encode keeps u :=
  List.flatMap_append

theorem encode_cons_of_keeps {keeps : CodePoint → Bool} {c : CodePoint} (h : keeps c = true)
    (t : Text) : encode keeps (c :: t) = c :: encode keeps t := by
  rw [encode, List.flatMap_cons, if_pos h]
  rfl

/-- The characters that escapes are made of. -/
def escapeCharacters : Text := "%0123456789ABCDEF"

/-- All bytes are checked by evaluation. -/
theorem mem_escapeByte {b : UInt8} {c : CodePoint} (h : c ∈ escapeByte b) :
    c ∈ escapeCharacters := by
  have hBytes : ∀ n : Fin 256, ∀ c ∈ escapeByte (UInt8.ofNat n), c ∈ escapeCharacters := by
    decide +kernel
  have hByte := hBytes ⟨b.toNat, b.toNat_lt⟩ c
  rw [UInt8.ofNat_toNat] at hByte
  exact hByte h

/-- What encoding writes is kept from the text or belongs to an escape. -/
theorem mem_encode {keeps : CodePoint → Bool} {t : Text} {c : CodePoint} (h : c ∈ encode keeps t) :
    keeps c = true ∧ c ∈ t ∨ c ∈ escapeCharacters := by
  obtain ⟨d, hd, hc⟩ := List.mem_flatMap.mp h
  split at hc
  · next hKeeps =>
      obtain rfl := List.mem_singleton.mp hc
      exact .inl ⟨hKeeps, hd⟩
  · obtain ⟨b, -, hb⟩ := List.mem_flatMap.mp hc
    exact .inr (mem_escapeByte hb)

/-- Where the mark of an escape is missing, nothing has been escaped. -/
theorem keeps_of_notMem_encode {keeps : CodePoint → Bool} {t : Text}
    (h : .scalar '%' ∉ encode keeps t) : ∀ c ∈ t, keeps c = true := by
  intro c hc
  refine Decidable.byContradiction fun hKeeps => h (List.mem_flatMap.mpr ⟨c, hc, ?_⟩)
  rw [if_neg hKeeps]
  obtain ⟨b, more, hBytes⟩ : ∃ b more, Utf8.encodeCodePoint c = b :: more := by
    simp only [Utf8.encodeCodePoint]
    split
    · exact ⟨_, _, rfl⟩
    split
    · exact ⟨_, _, rfl⟩
    split
    · exact ⟨_, _, rfl⟩
    · exact ⟨_, _, rfl⟩
  rw [hBytes, List.flatMap_cons]
  exact List.mem_append_left _ (List.mem_cons_self ..)

/-- Text that holds no mark and is kept is the encoding of itself only. -/
theorem encode_eq_iff {keeps : CodePoint → Bool} {t plain : Text} (hMark : .scalar '%' ∉ plain)
    (hPlain : ∀ c ∈ plain, keeps c = true) : encode keeps t = plain ↔ t = plain := by
  constructor
  · rintro rfl
    exact (encode_of_keeps (keeps_of_notMem_encode hMark)).symm
  · rintro rfl
    exact encode_of_keeps hPlain

/-- Encoding goes by parts where the mark between them stands for itself. -/
theorem encode_join {keeps : CodePoint → Bool} {mark : CodePoint} (h : keeps mark = true)
    (ts : List Text) :
    encode keeps (Text.join [mark] ts) = Text.join [mark] (ts.map (encode keeps)) := by
  have hMark : encode keeps [mark] = [mark] := encode_of_keeps (by simpa using h)
  fun_induction Text.join [mark] ts with
  | case1 => rfl
  | case2 t => rfl
  | case3 t u rest ih =>
      rw [encode_append, encode_append, hMark, ih]
      rfl

/-- A code point other than the mark is one byte. -/
theorem decode_cons {c : CodePoint} (hc : c ≠ .scalar '%') (t : Text) :
    decode (c :: t) = UInt8.ofNat c.val :: decode t := by
  cases t with
  | nil => rfl
  | cons d t =>
      cases t with
      | nil => rfl
      | cons e t =>
          rw [decode]
          split
          · rw [if_neg hc]
          · rfl

/-- All bytes are checked by evaluation. -/
theorem escapeByte_eq (b : UInt8) :
    escapeByte b = [.scalar '%', .scalar (b.toNat / 16).digitChar.toUpper,
      .scalar (b.toNat % 16).digitChar.toUpper] := by
  have hBytes : ∀ n : Fin 256, escapeByte (UInt8.ofNat n) =
      [.scalar '%', .scalar (n.val / 16).digitChar.toUpper,
        .scalar (n.val % 16).digitChar.toUpper] := by
    decide +kernel
  have hByte := hBytes ⟨b.toNat, b.toNat_lt⟩
  rwa [UInt8.ofNat_toNat] at hByte

theorem hexDigit?_digitChar {n : Nat} (h : n < 16) :
    hexDigit? (.scalar n.digitChar.toUpper) = some n := by
  have hDigits : ∀ n : Fin 16, hexDigit? (.scalar n.val.digitChar.toUpper) = some n.val := by
    decide
  exact hDigits ⟨n, h⟩

/-- The escape of a byte is read back as the byte, whatever follows. -/
theorem decode_escapeByte (b : UInt8) (t : Text) :
    decode (escapeByte b ++ t) = b :: decode t := by
  have hLt := b.toNat_lt
  have hByte : UInt8.ofNat (b.toNat / 16 * 16 + b.toNat % 16) = b := by
    rw [Nat.div_add_mod', UInt8.ofNat_toNat]
  rw [escapeByte_eq, List.cons_append, List.cons_append, List.cons_append, List.nil_append, decode]
  simp only [hexDigit?_digitChar (show b.toNat / 16 < 16 by omega),
    hexDigit?_digitChar (show b.toNat % 16 < 16 by omega), if_true, hByte]

/-- The escapes of several bytes are read back one by one. -/
theorem decode_escapeBytes (bytes : Bytes) (t : Text) :
    decode (bytes.flatMap escapeByte ++ t) = bytes ++ decode t := by
  induction bytes with
  | nil => rfl
  | cons b bytes ih =>
      rw [List.flatMap_cons, List.append_assoc, decode_escapeByte, ih, List.cons_append]

/-- What is kept has to be ASCII, and the mark must not be kept. -/
theorem decode_encode {keeps : CodePoint → Bool}
    (hKeeps : ∀ c, keeps c = true → c.isAscii = true ∧ c ≠ .scalar '%') (t : Text) :
    decode (encode keeps t) = t.flatMap Utf8.encodeCodePoint := by
  induction t with
  | nil => rfl
  | cons c t ih =>
      have hTail : decode (List.flatMap (fun c => if keeps c = true then [c] else
          (Utf8.encodeCodePoint c).flatMap escapeByte) t) = t.flatMap Utf8.encodeCodePoint := ih
      rw [encode, List.flatMap_cons, List.flatMap_cons]
      split
      · next h =>
          obtain ⟨hAscii, hMark⟩ := hKeeps c h
          have hVal : c.val < 0x80 := by simpa [CodePoint.isAscii] using hAscii
          rw [List.singleton_append, decode_cons hMark, hTail, Utf8.encodeCodePoint, if_pos hVal,
            List.singleton_append]
      · rw [decode_escapeBytes, hTail]

end DemurrageToken.Percent
