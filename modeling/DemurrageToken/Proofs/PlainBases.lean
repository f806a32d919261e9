import DemurrageToken.Proofs.BaseRequests

/-! Bases of the usual form are plain text: they hold no control characters, and
no surrogates, which no domain name has. -/
namespace DemurrageToken

/-- Surrogates have no capitals and no small letters. -/
theorem CodePoint.small_of_isSurrogate {c : CodePoint} (h : c.isSurrogate = true) :
    c.small = c := by
  have hRuns : ∀ run ∈ capitalRuns, run.2.1 < 0xD800 ∨ 0xDFFF < run.1 := by decide +kernel
  rw [CodePoint.isSurrogate_iff] at h
  rw [small]
  split
  · next first last step start hFound =>
      have hApart : last < 0xD800 ∨ 0xDFFF < first := hRuns _ (List.mem_of_find?_eq_some hFound)
      have hWithin := List.find?_some hFound
      simp only [Bool.and_eq_true, decide_eq_true_eq] at hWithin
      omega
  · rfl

/-- A surrogate would survive in the lower-case form of a text. -/
theorem Text.surrogateFree_of_lower {t : Text} (h : t.lower.SurrogateFree) : t.SurrogateFree := by
  have hAfter : ∀ before : Text, (lowerAfter before t).SurrogateFree → t.SurrogateFree := by
    clear h
    induction t with
    | nil => exact fun _ h => h
    | cons c t ih =>
        intro before h
        rw [lowerAfter, SurrogateFree.append_iff] at h
        refine SurrogateFree.cons_iff.mpr ⟨?_, ih _ h.2⟩
        cases hc : c.isSurrogate with
        | false => rfl
        | true =>
            have hRange := (CodePoint.isSurrogate_iff c).mp hc
            have hKept := h.1
            rw [if_neg (by omega), if_neg (by omega), CodePoint.small_of_isSurrogate hc] at hKept
            exact hc.symm.trans (hKept c (List.mem_singleton_self c))
  exact hAfter [] h

namespace DomainName

/-- No surrogate is allowed in a label of a domain name. -/
theorem isAllowed_of_isSurrogate {c : CodePoint} (h : c.isSurrogate = true) :
    isAllowed c = false := by
  have hRanges : ∀ range ∈ allowedUpTo9B2 ++ allowedUpTo1E93 ++ allowedUpToAB06 ++
      allowedUpTo33479, range.2 < 0xD800 ∨ 0xDFFF < range.1 := by
    decide +kernel
  rw [CodePoint.isSurrogate_iff] at h
  have hWithin : c.isWithin (allowedUpTo9B2 ++ allowedUpTo1E93 ++ allowedUpToAB06 ++
      allowedUpTo33479) = false := by
    rw [CodePoint.isWithin, List.any_eq_false]
    intro range hRange
    have hApart := hRanges range hRange
    simp only [Bool.and_eq_true, decide_eq_true_eq]
    omega
  simpa only [isAllowed, CodePoint.isWithin, List.any_append] using hWithin

/-- A label that passes the check of its code points holds no surrogate. -/
theorem surrogateFree_of_checkCodePoints {label before rest : Text}
    (h : checkCodePoints label before rest = .ok ()) : rest.SurrogateFree := by
  induction rest generalizing before with
  | nil => exact .nil
  | cons c rest ih =>
      rw [checkCodePoints] at h
      split at h
      · cases h
      · next hVerdict =>
          refine Text.SurrogateFree.cons_iff.mpr ⟨?_, ih h⟩
          cases hc : c.isSurrogate with
          | false => rfl
          | true =>
              have hRange := (CodePoint.isSurrogate_iff c).mp hc
              have hJoiner : isJoiner c = false := by
                rw [isJoiner, Bool.or_eq_false_iff, decide_eq_false_iff_not,
                  decide_eq_false_iff_not]
                omega
              have hArabic : isArabicDigit c = false := by
                rw [isArabicDigit, Bool.and_eq_false_iff, decide_eq_false_iff_not,
                  decide_eq_false_iff_not]
                omega
              have hExtended : isExtendedArabicDigit c = false := by
                rw [isExtendedArabicDigit, Bool.and_eq_false_iff, decide_eq_false_iff_not,
                  decide_eq_false_iff_not]
                omega
              have hStand : mayStand? c before rest = none := by
                simp only [mayStand?, hArabic, hExtended, Bool.false_eq_true, if_false]
                rw [if_neg (by omega), if_neg (by omega), if_neg (by omega), if_neg (by omega)]
              simp [isAllowed_of_isSurrogate hc, hJoiner, hStand] at hVerdict

/-- A label that can be written holds no surrogate. -/
theorem surrogateFree_of_writeLabel {label written : Text} (h : writeLabel label = .ok written) :
    label.SurrogateFree := by
  simp only [writeLabel] at h
  split at h
  · next hAscii => exact .of_all_isAscii hAscii
  · rw [Except.bind_eq_ok_iff] at h
    obtain ⟨_, hLabel, -⟩ := h
    simp only [checkLabel, Except.guard_eq_ok_iff, Except.bind_eq_ok_iff] at hLabel
    obtain ⟨-, -, -, -, -, -, _, hPoints, -⟩ := hLabel
    exact surrogateFree_of_checkCodePoints hPoints

/-- What divides no labels stands in one. -/
theorem exists_mem_labels {name : Text} {c : CodePoint} (hc : c ∈ name)
    (hMark : isLabelMark c = false) : ∃ label ∈ (labels name).1, c ∈ label := by
  have hText : c ∈ name.map fun d => if isLabelMark d then .scalar '.' else d :=
    List.mem_map.mpr ⟨c, hc, if_neg (by simp [hMark])⟩
  rw [← Text.join_splitOn (.scalar '.') (name.map _)] at hText
  rcases Text.mem_join hText with hStop | ⟨label, hLabel, hMem⟩
  · obtain rfl := List.mem_singleton.mp hStop
    exact absurd hMark (by decide)
  · refine ⟨label, ?_, hMem⟩
    simp only [labels]
    split
    · next hLast =>
        obtain ⟨before, hBefore⟩ := List.getLast?_eq_some_iff.mp hLast
        rw [hBefore, List.mem_append, List.mem_singleton] at hLabel
        rw [hBefore, List.dropLast_concat]
        refine hLabel.resolve_right ?_
        rintro rfl
        cases hMem
    · exact hLabel

/-- A name with a surrogate is not written. -/
theorem surrogateFree_of_write {name written : Text} (h : write name = .ok written) :
    name.SurrogateFree := by
  simp only [write, Except.guard_eq_ok_iff, Except.bind_eq_ok_iff] at h
  obtain ⟨-, -, parts, hParts, -⟩ := h
  intro c hc
  cases hMark : isLabelMark c with
  | true =>
      rw [isLabelMark, List.contains_iff_mem] at hMark
      have hMarks : ∀ n ∈ [0x2E, 0x3002, 0xFF0E, 0xFF61], n < 0xD800 ∨ 0xDFFF < n := by decide
      have hApart := hMarks _ hMark
      rw [← Bool.not_eq_true, CodePoint.isSurrogate_iff]
      omega
  | false =>
      obtain ⟨label, hLabel, hMem⟩ := exists_mem_labels hc hMark
      obtain ⟨part, hWrite⟩ := Except.exists_of_mapM hParts label hLabel
      exact surrogateFree_of_writeLabel hWrite c hMem

end DomainName

/-! ### Bases -/

/-- A text that stays as it is when it is printed. -/
def Text.IsPlain (t : Text) : Prop := ∀ c ∈ t, c ≠ .scalar '\x1b' ∧ c.isSurrogate = false

instance (t : Text) : Decidable t.IsPlain :=
  inferInstanceAs (Decidable (∀ c ∈ t, c ≠ .scalar '\x1b' ∧ c.isSurrogate = false))

theorem Text.IsPlain.append {t u : Text} (ht : t.IsPlain) (hu : u.IsPlain) : (t ++ u).IsPlain :=
  fun c hc => (List.mem_append.mp hc).elim (ht c) (hu c)

/-- Letters and digits are plain. -/
theorem Text.IsPlain.of_letters {t : Text} (h : ∀ c ∈ t, Percent.isLetterOrDigit c = true) :
    t.IsPlain := by
  intro c hc
  refine ⟨?_, CodePoint.isSurrogate_of_isAscii (Percent.isAscii_of_isLetterOrDigit (h c hc))⟩
  rintro rfl
  exact absurd (h _ hc) (by decide)

namespace Url

/-- A host that can be written holds no surrogate. -/
theorem IsHost.surrogateFree {host : Text} (h : IsHost host) : host.SurrogateFree := by
  cases h with
  | ascii _ hKeeps =>
      exact fun c hc => CodePoint.isSurrogate_of_isAscii (isAscii_of_keepsInHost (hKeeps c hc))
  | international _ _ hWrite =>
      exact Text.surrogateFree_of_lower (DomainName.surrogateFree_of_write hWrite)
  | bracketed _ hKeeps =>
      intro c hc
      rcases mem_brackets hc with rfl | hc | rfl
      · rfl
      · exact CodePoint.isSurrogate_of_isAscii (keepsInBrackets_spec (hKeeps c hc)).1
      · rfl

theorem IsAuthority.isPlain {t : Text} (h : IsAuthority t) (hFree : t.SurrogateFree) :
    t.IsPlain := by
  refine fun c hc => ⟨?_, hFree c hc⟩
  rintro rfl
  exact (h _ hc).1 (by decide)

/-- The port of a base is plain, with its colon. -/
theorem IsPortPart.isPlain {part : Text} (h : IsPortPart part) : part.IsPlain := by
  refine h.isAuthority.isPlain fun c hc => ?_
  rcases h.mem hc with rfl | hDigit
  · rfl
  · rw [← Bool.not_eq_true, CodePoint.isSurrogate_iff]
    omega

end Url

/-- The segments of a base are plain. -/
theorem Node.isPlain_of_isSegmentCharacter {t : Text}
    (h : ∀ c ∈ t, isSegmentCharacter c = true) : t.IsPlain := by
  intro c hc
  have hMarks : Text.IsPlain "-_~" := by decide
  have hKept := h c hc
  rw [isSegmentCharacter, Bool.or_eq_true, List.contains_iff_mem] at hKept
  rcases hKept with hLetter | hMark
  · exact Text.IsPlain.of_letters (t := [c]) (by simpa using hLetter) c (List.mem_singleton_self c)
  · exact hMarks c hMark

/-- A base of the usual form is plain, however many slashes it ends in. -/
theorem Node.Base.isPlain_slashed (b : Node.Base) (slashes : Nat) :
    (b.slashed slashes).IsPlain := by
  have hScheme : b.scheme.IsPlain := by
    rcases b.isWebScheme with h | h <;> rw [h] <;> decide
  have hHost := b.isHost.isAuthority.isPlain b.isHost.surrogateFree
  have hMarks : Text.IsPlain "://" := by decide
  have hFront : (frontPath b.segments).IsPlain := by
    intro c hc
    obtain ⟨segment, hSegment, hc⟩ := List.mem_flatMap.mp hc
    rcases List.mem_cons.mp hc with rfl | hc
    · decide
    · exact isPlain_of_isSegmentCharacter (b.characters segment hSegment) c hc
  have hSlashes : Text.IsPlain (List.replicate slashes (.scalar '/')) := by
    intro c hc
    rw [List.eq_of_mem_replicate hc]
    decide
  exact (((hScheme.append hMarks).append (hHost.append b.isPortPart.isPlain)).append hFront).append
    hSlashes

end DemurrageToken
