import DemurrageToken.Base64
import DemurrageToken.Proofs.Utf8

/-! Base64 with the standard alphabet. The lenient reader undoes the writer for
every number of bytes modulo three, and what is written is ASCII. -/
namespace DemurrageToken.Base64

/-! ### The alphabet -/

@[simp] theorem sextet?_digit (s : Sextet) : sextet? (digit s) = some s := by
  revert s
  decide

@[simp] theorem digit_ne_pad (s : Sextet) : digit s ≠ .scalar '=' := by
  revert s
  decide

/-- A digit is a letter, a decimal digit, a plus sign or a slash. -/
theorem digit_cases (s : Sextet) :
    ∃ char : Char, digit s = .scalar char ∧
      (char.isAlphanum = true ∨ char = '+' ∨ char = '/') := by
  have hCases : ∀ s : Sextet, (digit s).char?.any (fun char =>
      char.isAlphanum || char = '+' || char = '/') = true := by
    decide
  have hDigit := hCases s
  cases hChar : digit s with
  | surrogate index =>
      rw [hChar] at hDigit
      cases hDigit
  | scalar char =>
      rw [hChar] at hDigit
      simp only [CodePoint.char?, Option.any_some, Bool.or_eq_true, decide_eq_true_eq,
        or_assoc] at hDigit
      exact ⟨char, rfl, hDigit⟩

/-- The writer uses digits and the padding mark only. -/
theorem mem_encode {bytes : Bytes} {c : CodePoint} (h : c ∈ encode bytes) :
    (∃ s, c = digit s) ∨ c = .scalar '=' := by
  fun_induction encode bytes with
  | case1 => simp at h
  | case2 a =>
      simp only [List.mem_cons, List.not_mem_nil, or_false] at h
      rcases h with rfl | rfl | rfl | rfl
      · exact .inl ⟨_, rfl⟩
      · exact .inl ⟨_, rfl⟩
      · exact .inr rfl
      · exact .inr rfl
  | case3 a b =>
      simp only [List.mem_cons, List.not_mem_nil, or_false] at h
      rcases h with rfl | rfl | rfl | rfl
      · exact .inl ⟨_, rfl⟩
      · exact .inl ⟨_, rfl⟩
      · exact .inl ⟨_, rfl⟩
      · exact .inr rfl
  | case4 a b c rest ih =>
      simp only [List.mem_cons] at h
      rcases h with rfl | rfl | rfl | rfl | h
      · exact .inl ⟨_, rfl⟩
      · exact .inl ⟨_, rfl⟩
      · exact .inl ⟨_, rfl⟩
      · exact .inl ⟨_, rfl⟩
      · exact ih h

/-- The characters of base64 text: letters, digits, plus, slash and padding. -/
theorem mem_encode_cases {bytes : Bytes} {c : CodePoint} (h : c ∈ encode bytes) :
    ∃ char : Char, c = .scalar char ∧
      (char.isAlphanum = true ∨ char = '+' ∨ char = '/' ∨ char = '=') := by
  rcases mem_encode h with ⟨s, rfl⟩ | rfl
  · obtain ⟨char, hDigit, hCases⟩ := digit_cases s
    rcases hCases with hCase | hCase | hCase
    · exact ⟨char, hDigit, .inl hCase⟩
    · exact ⟨char, hDigit, .inr (.inl hCase)⟩
    · exact ⟨char, hDigit, .inr (.inr (.inl hCase))⟩
  · exact ⟨'=', rfl, .inr (.inr (.inr rfl))⟩

theorem digit_isAscii (s : Sextet) : (digit s).isAscii = true := by
  revert s
  decide

/-- What is written is ASCII, so the reader of payloads looks at it at all. -/
theorem encode_isAscii (bytes : Bytes) : (encode bytes).all CodePoint.isAscii = true := by
  rw [List.all_eq_true]
  intro c hc
  rcases mem_encode hc with ⟨s, rfl⟩ | rfl
  · exact digit_isAscii s
  · rfl

/-! ### Reading what was written -/

/-- A digit fills one more place of its group, and forgets the paddings before it. -/
theorem gather_digit (filled pads : Nat) (s : Sextet) (rest : Text) :
    gather filled pads (digit s :: rest) =
      (s :: (gather ((filled + 1) % 4) 0 rest).1, (gather ((filled + 1) % 4) 0 rest).2) := by
  rw [gather, if_neg (digit_ne_pad s), sextet?_digit]

private theorem ofNat_eq (b : UInt8) {n : Nat} (h : n % 256 = b.toNat) : UInt8.ofNat n = b := by
  apply UInt8.toNat_inj.mp
  rw [UInt8.toNat_ofNat']
  exact h

/-- The sextets of a group carry its bytes. The last group may be short, and
then padding has closed the text. -/
theorem gather_encode (bytes : Bytes) :
    ∃ data closed, gather 0 0 (encode bytes) = (data, closed) ∧ unpack data = bytes ∧
      (closed = true ∨ data.length % 4 = 0) := by
  fun_induction encode bytes with
  | case1 => exact ⟨[], false, rfl, rfl, .inr rfl⟩
  | case2 a =>
      refine ⟨[Fin.ofNat 64 (a.toNat / 4), Fin.ofNat 64 (a.toNat % 4 * 16)], true, ?_, ?_,
        .inl rfl⟩
      · rw [gather_digit, gather_digit]
        rfl
      · have ha := a.toNat_lt
        simp only [unpack, Fin.ofNat, List.cons.injEq, and_true]
        exact ofNat_eq a (by omega)
  | case3 a b =>
      refine ⟨[Fin.ofNat 64 (a.toNat / 4), Fin.ofNat 64 (a.toNat % 4 * 16 + b.toNat / 16),
        Fin.ofNat 64 (b.toNat % 16 * 4)], true, ?_, ?_, .inl rfl⟩
      · rw [gather_digit, gather_digit, gather_digit]
        rfl
      · have ha := a.toNat_lt
        have hb := b.toNat_lt
        simp only [unpack, Fin.ofNat, List.cons.injEq, and_true]
        exact ⟨ofNat_eq a (by omega), ofNat_eq b (by omega)⟩
  | case4 a b c rest ih =>
      obtain ⟨data, closed, hGather, hUnpack, hClosed⟩ := ih
      refine ⟨Fin.ofNat 64 (a.toNat / 4) :: Fin.ofNat 64 (a.toNat % 4 * 16 + b.toNat / 16) ::
        Fin.ofNat 64 (b.toNat % 16 * 4 + c.toNat / 64) :: Fin.ofNat 64 (c.toNat % 64) :: data,
        closed, ?_, ?_, ?_⟩
      · rw [gather_digit, gather_digit, gather_digit, gather_digit]
        simp [hGather]
      · have ha := a.toNat_lt
        have hb := b.toNat_lt
        have hc := c.toNat_lt
        simp only [unpack, Fin.ofNat, List.cons.injEq]
        exact ⟨ofNat_eq a (by omega), ofNat_eq b (by omega), ofNat_eq c (by omega), hUnpack⟩
      · exact hClosed.imp_right fun hLength => by simp only [List.length_cons]; omega

/-- Every byte sequence reads back from its base64 text. -/
theorem decode_encode (bytes : Bytes) : decode (encode bytes) = .ok bytes := by
  obtain ⟨data, closed, hGather, hUnpack, hClosed⟩ := gather_encode bytes
  have hEnd : (closed || decide (data.length % 4 = 0)) = true := by
    simpa using hClosed
  simp only [decode, hGather, hEnd, if_true, hUnpack]

end DemurrageToken.Base64
