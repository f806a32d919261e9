import DemurrageToken.DomainName.Basic
import DemurrageToken.Proofs.Except
import DemurrageToken.Proofs.Text
import DemurrageToken.Proofs.Utf8

/-! Domain names that are written in ASCII consist of small letters, digits,
hyphens and full stops, whatever scripts they come from. -/
namespace DemurrageToken

/-- Small letters, digits and the hyphen. -/
def DomainName.isLabelCharacter (c : CodePoint) : Bool :=
  (97 ≤ c.val && c.val ≤ 122) || (48 ≤ c.val && c.val ≤ 57) || c.val = 45

/-! ### Differences -/

namespace Punycode

open DomainName (isLabelCharacter)

theorem isLabelCharacter_digit {d : Nat} (h : d < 36) : isLabelCharacter (digit d) = true := by
  have hDigits : ∀ d : Fin 36, isLabelCharacter (digit d.val) = true := by decide
  exact hDigits ⟨d, h⟩

/-- A threshold lies between one and twenty-six, so that each place has a digit that
ends the number. -/
theorem threshold_bounds (place bias : Nat) :
    1 ≤ threshold place bias ∧ threshold place bias ≤ 26 := by
  rw [threshold]
  omega

/-- A difference is written in small letters and digits. -/
theorem isLabelCharacter_of_mem_digits {bias bound place delta : Nat} {c : CodePoint}
    (h : c ∈ digits bias bound place delta) : isLabelCharacter c = true := by
  induction bound generalizing place delta with
  | zero => cases h
  | succ bound ih =>
      obtain ⟨hLeast, hMost⟩ := threshold_bounds place bias
      simp only [digits] at h
      split at h
      · obtain rfl := List.mem_singleton.mp h
        exact isLabelCharacter_digit (by omega)
      · rcases List.mem_cons.mp h with rfl | h
        · have hMod : (delta - threshold place bias) % (36 - threshold place bias) <
              36 - threshold place bias := Nat.mod_lt _ (by omega)
          exact isLabelCharacter_digit (by omega)
        · exact ih h

/-- One pass adds digits only. -/
theorem isLabelCharacter_pass (n : Nat) {s : State}
    (hs : ∀ c ∈ s.written, isLabelCharacter c = true) (text : List Nat) :
    ∀ c ∈ (pass n s text).written, isLabelCharacter c = true := by
  induction text generalizing s with
  | nil => exact hs
  | cons number text ih =>
      rw [pass, List.foldl_cons]
      refine ih ?_
      split
      · exact hs
      · split
        · intro c hc
          rcases List.mem_append.mp hc with hc | hc
          · exact hs c hc
          · exact isLabelCharacter_of_mem_digits hc
        · exact hs

theorem isLabelCharacter_passes {text : List Nat} {bound n : Nat} {s : State}
    (hs : ∀ c ∈ s.written, isLabelCharacter c = true) :
    ∀ c ∈ passes text bound n s, isLabelCharacter c = true := by
  induction bound generalizing n s with
  | zero => exact hs
  | succ bound ih =>
      rw [passes]
      split
      · exact hs
      · next m hMin =>
          exact ih (isLabelCharacter_pass m
            (s := { s with delta := s.delta + (m - n) * (s.handled + 1) }) hs text)

/-- A text is written with its own characters in ASCII and with digits. -/
theorem mem_encode {t : Text} {c : CodePoint} (h : c ∈ encode t) :
    isLabelCharacter c = true ∨ c ∈ t ∧ c.isAscii = true := by
  simp only [encode] at h
  rcases List.mem_append.mp h with h | h
  · split at h
    · cases h
    · rcases List.mem_append.mp h with h | h
      · exact .inr (List.mem_filter.mp h)
      · obtain rfl := List.mem_singleton.mp h
        exact .inl (by decide)
  · exact .inl (isLabelCharacter_passes (fun c hc => absurd hc List.not_mem_nil) c h)

/-! ### Reading -/

/-- A difference is read from digits at the front. -/
theorem difference?_eq_some {bias place weight sum delta : Nat} {t rest : Text}
    (h : difference? bias place weight sum t = some (delta, rest)) :
    ∃ front, t = front ++ rest ∧ ∀ c ∈ front, (digitValue? c).isSome = true := by
  induction t generalizing place weight sum with
  | nil => cases h
  | cons c t ih =>
      rw [difference?] at h
      cases hDigit : digitValue? c with
      | none =>
          rw [hDigit] at h
          cases h
      | some d =>
          simp only [hDigit] at h
          split at h
          · cases h
            refine ⟨[c], rfl, fun e he => ?_⟩
            rw [List.mem_singleton.mp he, hDigit]
            rfl
          · obtain ⟨front, rfl, hFront⟩ := ih h
            refine ⟨c :: front, rfl, fun e he => ?_⟩
            rcases List.mem_cons.mp he with rfl | he
            · rw [hDigit]
              rfl
            · exact hFront e he

/-- Insertions keep the text so far, and all digits are used. -/
theorem insertAll_eq_true {bound : Nat} {s : Insertion} {t whole : Text}
    (h : insertAll bound s t = (whole, true)) :
    (∀ c ∈ s.text, c ∈ whole) ∧ ∀ c ∈ t, (digitValue? c).isSome = true := by
  induction bound generalizing s t with
  | zero =>
      cases t with
      | nil =>
          cases h
          exact ⟨fun c hc => hc, fun c hc => absurd hc List.not_mem_nil⟩
      | cons c t => cases h
  | succ bound ih =>
      cases t with
      | nil =>
          cases h
          exact ⟨fun c hc => hc, fun c hc => absurd hc List.not_mem_nil⟩
      | cons c t =>
          rw [insertAll] at h
          · split at h
            · cases h
            · next delta rest hDifference =>
                obtain ⟨front, hFront, hDigits⟩ := difference?_eq_some hDifference
                simp only at h
                generalize (if 0x10FFFF < s.number + (s.place + delta) / (s.text.length + 1) then
                  ((63 : Nat), false) else (_, true)) = choice at h
                rw [Prod.mk.injEq, Bool.and_eq_true] at h
                obtain ⟨hWhole, -, hGood⟩ := h
                obtain ⟨hText, hRest⟩ := ih (Prod.ext hWhole hGood)
                refine ⟨fun d hd => hText d ?_, fun d hd => ?_⟩
                · rw [← List.take_append_drop ((s.place + delta) % (s.text.length + 1)) s.text,
                    List.mem_append] at hd
                  rw [List.mem_append, List.mem_cons]
                  exact hd.imp id .inr
                · rw [hFront, List.mem_append] at hd
                  exact hd.elim (hDigits d) (hRest d)
          · simp

/-- The characters of a text that is read are in the text that it stands for,
or they are digits and the hyphen before them. -/
theorem mem_of_decode? {t whole : Text} (h : decode? t = some whole) {c : CodePoint} (hc : c ∈ t) :
    c ∈ whole ∨ c = .scalar '-' ∨ (digitValue? c).isSome = true := by
  obtain ⟨after, before, hSpan⟩ : ∃ after before,
      t.reverse.span (· ≠ .scalar '-') = (after, before) := ⟨_, _, rfl⟩
  obtain ⟨hReverse, -, hMark⟩ := Text.span_eq_iff.mp hSpan
  have hInsert : insert (before.drop 1).reverse after.reverse = (whole, true) := by
    simp only [decode?, splitAtHyphen, hSpan] at h
    split at h
    · next hInsert =>
        cases h
        exact hInsert
    · cases h
  obtain ⟨hBasic, hDigits⟩ := insertAll_eq_true hInsert
  rw [← List.mem_reverse, hReverse, List.mem_append] at hc
  rcases hc with hc | hc
  · exact .inr (.inr (hDigits c (List.mem_reverse.mpr hc)))
  · cases before with
    | nil => cases hc
    | cons mark before =>
        rcases List.mem_cons.mp hc with rfl | hc
        · have hHyphen := hMark c rfl
          exact .inr (.inl (by simpa using hHyphen))
        · exact .inl (hBasic c (List.mem_reverse.mpr hc))

end Punycode

namespace DomainName

/-! ### Labels -/

/-- Only the first three ranges of what is allowed lie in ASCII. -/
theorem isLabelCharacter_of_isAllowed {c : CodePoint} (hAscii : c.isAscii = true)
    (h : isAllowed c = true) : isLabelCharacter c = true := by
  have hBeyond : ∀ range ∈ allowedUpTo9B2.drop 3 ++ allowedUpTo1E93 ++ allowedUpToAB06 ++
      allowedUpTo33479, 0x80 ≤ range.1 := by
    decide +kernel
  have hAll : isAllowed c = c.isWithin ([(0x2D, 0x2D), (0x30, 0x39), (0x61, 0x7A)] ++
      (allowedUpTo9B2.drop 3 ++ allowedUpTo1E93 ++ allowedUpToAB06 ++ allowedUpTo33479)) := by
    have hFirst : allowedUpTo9B2 = [(0x2D, 0x2D), (0x30, 0x39), (0x61, 0x7A)] ++
      allowedUpTo9B2.drop 3 := rfl
    rw [isAllowed]
    nth_rewrite 1 [hFirst]
    simp only [CodePoint.isWithin, List.any_append, Bool.or_assoc]
  rw [CodePoint.isAscii, decide_eq_true_eq] at hAscii
  rw [hAll, CodePoint.isWithin, List.any_eq_true] at h
  obtain ⟨range, hRange, hWithin⟩ := h
  rw [Bool.and_eq_true, decide_eq_true_eq, decide_eq_true_eq] at hWithin
  rw [isLabelCharacter]
  simp only [Bool.or_eq_true, Bool.and_eq_true, decide_eq_true_eq]
  rcases List.mem_append.mp hRange with hRange | hRange
  · simp only [List.mem_cons, List.not_mem_nil, or_false] at hRange
    rcases hRange with rfl | rfl | rfl
    · exact .inr (by omega)
    · exact .inl (.inr hWithin)
    · exact .inl (.inl hWithin)
  · have hLeast := hBeyond range hRange
    omega

/-- In ASCII no code point depends on those around it. -/
theorem mayStand?_of_isAscii {c : CodePoint} (h : c.isAscii = true) (before after : Text) :
    isJoiner c = false ∧ mayStand? c before after = none := by
  rw [CodePoint.isAscii, decide_eq_true_eq] at h
  constructor
  · rw [isJoiner, Bool.or_eq_false_iff, decide_eq_false_iff_not, decide_eq_false_iff_not]
    omega
  · have hArabic : isArabicDigit c = false := by
      rw [isArabicDigit, Bool.and_eq_false_iff, decide_eq_false_iff_not]
      omega
    have hExtended : isExtendedArabicDigit c = false := by
      rw [isExtendedArabicDigit, Bool.and_eq_false_iff, decide_eq_false_iff_not]
      omega
    simp only [mayStand?, hArabic, hExtended, Bool.false_eq_true, if_false]
    rw [if_neg (by omega), if_neg (by omega), if_neg (by omega), if_neg (by omega)]

/-- A label that passes the check of its code points has no other ASCII than small
letters, digits and hyphens. -/
theorem isLabelCharacter_of_checkCodePoints {label before rest : Text}
    (h : checkCodePoints label before rest = .ok ()) :
    ∀ c ∈ rest, c.isAscii = true → isLabelCharacter c = true := by
  induction rest generalizing before with
  | nil => exact fun c hc => absurd hc List.not_mem_nil
  | cons c rest ih =>
      intro d hd hAscii
      rw [checkCodePoints] at h
      split at h
      · cases h
      · next hVerdict =>
          rcases List.mem_cons.mp hd with rfl | hd
          · obtain ⟨hJoiner, hStand⟩ := mayStand?_of_isAscii hAscii before rest
            cases hAllowed : isAllowed d with
            | true => exact isLabelCharacter_of_isAllowed hAscii hAllowed
            | false =>
                simp only [hAllowed, hJoiner, hStand, Bool.false_eq_true, if_false] at hVerdict
                cases hVerdict
          · exact ih h d hd hAscii

/-- All guards of a label have to let it pass. -/
theorem checkLabel_eq_ok {label : Text} (h : checkLabel label = .ok ()) :
    label ≠ [] ∧ ∀ c ∈ label, c.isAscii = true → isLabelCharacter c = true := by
  simp only [checkLabel, Except.guard_eq_ok_iff, Except.bind_eq_ok_iff] at h
  obtain ⟨hNonempty, -, -, -, -, -, _, hPoints, -⟩ := h
  exact ⟨hNonempty, isLabelCharacter_of_checkCodePoints hPoints⟩

/-- What is a digit of a difference and has no case to lose may stand in a label. -/
theorem isLabelCharacter_of_digitValue? {c : CodePoint} (h : (Punycode.digitValue? c).isSome = true)
    (hSmall : c.lowered = c) : isLabelCharacter c = true := by
  have hAscii : c.isAscii = true := by
    rw [CodePoint.isAscii, decide_eq_true_eq]
    by_contra hBeyond
    rw [Punycode.digitValue?] at h
    rw [if_neg (by omega), if_neg (by omega), if_neg (by omega)] at h
    cases h
  exact CodePoint.of_forall_ascii
    (p := fun c => (Punycode.digitValue? c).isSome = true → c.lowered = c →
      isLabelCharacter c = true) (by decide +kernel) hAscii h hSmall

/-- A small label in ASCII that can be read consists of the characters of
labels. -/
theorem readLabel_eq_ok {label whole : Text} (hAscii : ∀ c ∈ label, c.isAscii = true)
    (hSmall : label.lowerAscii = label) (h : readLabel label = .ok whole) :
    label ≠ [] ∧ ∀ c ∈ label, isLabelCharacter c = true := by
  simp only [readLabel, hSmall] at h
  split at h
  · rw [Except.bind_eq_ok_iff] at h
    obtain ⟨_, hLabel, -⟩ := h
    obtain ⟨hNonempty, hCharacters⟩ := checkLabel_eq_ok hLabel
    exact ⟨hNonempty, fun c hc => hCharacters c hc (hAscii c hc)⟩
  · cases h
  · next digits hDigits hMarked =>
      rw [Text.dropStart?_eq_some_iff] at hMarked
      rw [Except.guard_eq_ok_iff] at h
      obtain ⟨-, h⟩ := h
      split at h
      · cases h
      · next read hRead =>
          rw [Except.bind_eq_ok_iff] at h
          obtain ⟨_, hLabel, -⟩ := h
          refine ⟨by rw [hMarked]; exact List.append_ne_nil_of_left_ne_nil (by decide) _, ?_⟩
          intro c hc
          have hSame : c.lowered = c := Text.lowerAscii_eq_self_iff.mp hSmall c hc
          have hSplit := hc
          rw [hMarked, List.mem_append] at hSplit
          rcases hSplit with hMark | hDigit
          · have hMarks : ∀ c ∈ asciiMark, isLabelCharacter c = true := by decide
            exact hMarks c hMark
          · rcases Punycode.mem_of_decode? hRead hDigit with hWhole | rfl | hValue
            · exact (checkLabel_eq_ok hLabel).2 c hWhole (hAscii c hc)
            · decide
            · exact isLabelCharacter_of_digitValue? hValue hSame

theorem writeLabel_eq_ok {label written : Text}
    (hSmall : ∀ c ∈ label, c.isAscii = true → c.lowered = c)
    (h : writeLabel label = .ok written) :
    written ≠ [] ∧ ∀ c ∈ written, isLabelCharacter c = true := by
  simp only [writeLabel] at h
  split at h
  · next hAscii =>
      rw [List.all_eq_true] at hAscii
      rw [Except.bind_eq_ok_iff] at h
      obtain ⟨whole, hRead, h⟩ := h
      rw [pure_bind, Except.guard_eq_ok_iff] at h
      obtain ⟨-, hWritten⟩ := h
      cases hWritten
      exact readLabel_eq_ok hAscii
        (Text.lowerAscii_eq_self_iff.mpr fun c hc => hSmall c hc (hAscii c hc)) hRead
  · rw [Except.bind_eq_ok_iff] at h
    obtain ⟨_, hLabel, h⟩ := h
    rw [pure_bind, Except.guard_eq_ok_iff] at h
    obtain ⟨-, hWritten⟩ := h
    cases hWritten
    refine ⟨List.append_ne_nil_of_left_ne_nil (by decide) _, fun c hc => ?_⟩
    rcases List.mem_append.mp hc with hMark | hEncoded
    · have hMarks : ∀ c ∈ asciiMark, isLabelCharacter c = true := by decide
      exact hMarks c hMark
    · rcases Punycode.mem_encode hEncoded with hCharacter | ⟨hMem, hAscii⟩
      · exact hCharacter
      · exact (checkLabel_eq_ok hLabel).2 c hMem hAscii

/-! ### Names -/

/-- The code points of a label are the name's, but for the one full stop that all
marks between labels become. -/
theorem mem_of_mem_labels {name label : Text} (hLabel : label ∈ (labels name).1) {c : CodePoint}
    (hc : c ∈ label) : c = .scalar '.' ∨ c ∈ name := by
  have hAll : label ∈ (name.map fun c => if isLabelMark c then .scalar '.' else c).splitOn
      (.scalar '.') := by
    simp only [labels] at hLabel
    split at hLabel
    · exact List.dropLast_subset _ hLabel
    · exact hLabel
  obtain ⟨d, hd, rfl⟩ := List.mem_map.mp (Text.mem_of_mem_splitOn hAll hc)
  split
  · exact .inl rfl
  · exact .inr hd

theorem labels_ne_nil {name : Text} (h : name ≠ []) : (labels name).1 ≠ [] := by
  have hText := Text.join_splitOn (.scalar '.')
    (name.map fun c => if isLabelMark c then .scalar '.' else c)
  intro hNil
  simp only [labels] at hNil
  split at hNil
  · next hLast =>
      obtain ⟨before, hBefore⟩ := List.getLast?_eq_some_iff.mp hLast
      rw [hBefore, List.dropLast_concat] at hNil
      obtain rfl : before = [] := hNil
      rw [hBefore] at hText
      exact h (List.map_eq_nil_iff.mp hText.symm)
  · exact List.splitOn_ne_nil _ _ hNil

/-- What a small name is written in, and how long it is at most. -/
theorem write_eq_ok {name written : Text} (hSmall : ∀ c ∈ name, c.isAscii = true → c.lowered = c)
    (h : write name = .ok written) :
    written ≠ [] ∧ written.length ≤ longestName ∧
      ∀ c ∈ written, isLabelCharacter c = true ∨ c = .scalar '.' := by
  simp only [write, Except.guard_eq_ok_iff, Except.bind_eq_ok_iff] at h
  obtain ⟨hNonempty, -, parts, hParts, hShort, hWritten⟩ := h
  cases hWritten
  obtain ⟨hLength, hMem⟩ := Except.mem_of_mapM hParts
  have hPart : ∀ part ∈ parts, part ≠ [] ∧ ∀ c ∈ part, isLabelCharacter c = true := by
    intro part hPart
    obtain ⟨label, hLabel, hWrite⟩ := hMem part hPart
    refine writeLabel_eq_ok (fun c hc hAscii => ?_) hWrite
    rcases mem_of_mem_labels hLabel hc with rfl | hc
    · rfl
    · exact hSmall c hc hAscii
  have hEach : ∀ part ∈ (if (labels name).2 then parts ++ [[]] else parts),
      part = [] ∨ part ∈ parts := by
    intro part hPart
    split at hPart
    · rcases List.mem_append.mp hPart with hPart | hPart
      · exact .inr hPart
      · exact .inl (List.mem_singleton.mp hPart)
    · exact .inr hPart
  refine ⟨?_, ?_, ?_⟩
  · have hParts : parts ≠ [] := by
      rintro rfl
      exact labels_ne_nil hNonempty (List.length_eq_zero_iff.mp hLength.symm)
    obtain ⟨part, rest, rfl⟩ := List.exists_cons_of_ne_nil hParts
    obtain ⟨c, more, rfl⟩ := List.exists_cons_of_ne_nil (hPart part (List.mem_cons_self ..)).1
    refine List.ne_nil_of_mem (@Text.mem_join_of_mem _ (c :: more) _ c ?_ (List.mem_cons_self ..))
    split
    · exact List.mem_append_left _ (List.mem_cons_self ..)
    · exact List.mem_cons_self ..
  · split at hShort
    · exact Nat.le_of_not_lt hShort
    · exact (Nat.le_of_not_lt hShort).trans (Nat.sub_le _ _)
  · intro c hc
    rcases Text.mem_join hc with hMark | ⟨part, hMem, hc⟩
    · exact .inr (List.mem_singleton.mp hMark)
    · rcases hEach part hMem with rfl | hMem
      · cases hc
      · exact .inl ((hPart part hMem).2 c hc)

end DomainName

/-! ### Lower case -/

namespace CodePoint

theorem lowered_of_val {c : CodePoint} (h : c.val < 0x41 ∨ 0x5A < c.val)
    (hAscii : c.isAscii = true) : c.lowered = c :=
  of_forall_ascii (p := fun c => c.val < 0x41 ∨ 0x5A < c.val → c.lowered = c) (by decide +kernel)
    hAscii h

/-- The small letter of a code point is no capital of ASCII. -/
theorem val_small (c : CodePoint) : c.small.val < 0x41 ∨ 0x5A < c.small.val := by
  have hRuns : ∀ run ∈ capitalRuns,
      0x5A < run.2.2.2 ∧ run.2.2.2 + (run.2.1 - run.1) ≤ 0x10FFFF := by
    decide +kernel
  rw [small]
  split
  · next first _ _ start hFound =>
      have hRange := List.find?_some hFound
      simp only [Bool.and_eq_true, decide_eq_true_eq] at hRange
      obtain ⟨hStart, hEnd⟩ := hRuns _ (List.mem_of_find?_eq_some hFound)
      simp only at hStart hEnd
      rw [val_ofNat (by omega)]
      omega
  · next hFound =>
      have hCapitals := List.find?_eq_none.mp hFound (0x41, 0x5A, 1, 0x61) (List.mem_cons_self ..)
      simp only [Bool.and_eq_true, decide_eq_true_eq, Nat.mod_one, and_true, not_and,
        Nat.not_le] at hCapitals
      omega

end CodePoint

/-- The lower-case form of a text holds no capital letter of ASCII. -/
theorem Text.lowered_of_mem_lower {t : Text} {c : CodePoint} (hc : c ∈ t.lower)
    (hAscii : c.isAscii = true) : c.lowered = c := by
  have hDotted : ∀ d ∈ ([.scalar 'i', .scalar '\u0307'] : Text), d.lowered = d := by decide
  have hAfter : ∀ before : Text, c ∈ lowerAfter before t → c.lowered = c := by
    clear hc
    induction t with
    | nil => exact fun before hc => absurd hc List.not_mem_nil
    | cons d t ih =>
        intro before hc
        rw [lowerAfter] at hc
        rcases List.mem_append.mp hc with hc | hc
        · split at hc
          · exact hDotted c hc
          · split at hc
            · split at hc
              · obtain rfl := List.mem_singleton.mp hc
                rfl
              · obtain rfl := List.mem_singleton.mp hc
                rfl
            · rw [List.mem_singleton.mp hc] at hAscii ⊢
              exact CodePoint.lowered_of_val d.val_small hAscii
        · exact ih _ hc
  exact hAfter [] hc

end DemurrageToken
