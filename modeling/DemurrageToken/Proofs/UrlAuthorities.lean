import DemurrageToken.Proofs.Integers
import DemurrageToken.Proofs.UrlParts

/-! Ports, and how an authority is cut into host and port. A port is written so
that it is read as the same port again. -/
namespace DemurrageToken

namespace Url

/-! ### Ports -/

/-- The end of an authority that names a port or none: nothing, or a colon and
digits. -/
inductive IsPortPart : Text → Prop where
  | absent : IsPortPart []
  | digits {ds : List Char} (hDigits : ∀ d ∈ ds, d.isDigit = true)
      (hLength : ds.length ≤ Text.integerDigitLimit) :
      IsPortPart (.scalar ':' :: Text.ofChars ds)

/-- The end of an authority, as it is written for a port. -/
def portPart : Option Int → Text
  | some n => ":" ++ Text.ofInt n
  | none => []

/-- A port is written with a colon and digits. -/
theorem IsPortPart.mem {part : Text} (h : IsPortPart part) {c : CodePoint} (hc : c ∈ part) :
    c = .scalar ':' ∨ 48 ≤ c.val ∧ c.val ≤ 57 := by
  cases h with
  | absent => cases hc
  | @digits ds hDigits hLength =>
      rcases List.mem_cons.mp hc with rfl | hc
      · exact .inl rfl
      · obtain ⟨d, hd, rfl⟩ := List.mem_map.mp hc
        exact .inr (Text.digit_bounds (hDigits d hd))

/-- A port is normal unless it is the usual one of its scheme, which is left out. -/
theorem normalPort_digits (scheme : Text) {ds : List Char} (hDigits : ∀ d ∈ ds, d.isDigit = true)
    (hNonempty : ds ≠ []) (hLength : ds.length ≤ Text.integerDigitLimit) :
    normalPort scheme (Text.ofChars ds) =
      .ok (if defaultPort? scheme = some (Nat.ofDigitChars 10 ds 0 : Int) then none
        else some (Nat.ofDigitChars 10 ds 0 : Int)) := by
  have hText : Text.ofChars ds ≠ [] := by
    rw [Text.ofChars, ne_eq, List.map_eq_nil_iff]
    exact hNonempty
  rw [normalPort, if_neg hText, Text.toInt?_of_isDecimal (.unsigned hDigits hNonempty hLength)]

/-- The port of an authority is written so that it gives the same port again. -/
theorem IsPortPart.settles (scheme : Text) {part : Text} (h : IsPortPart part) :
    ∃ port, normalPort scheme (part.drop 1) = .ok port ∧ IsPortPart (portPart port) ∧
      normalPort scheme ((portPart port).drop 1) = .ok port ∧
      (portPart port).length ≤ part.length := by
  cases h with
  | absent => exact ⟨none, rfl, .absent, rfl, Nat.le_refl _⟩
  | @digits ds hDigits hLength =>
      by_cases hEmpty : ds = []
      · subst hEmpty
        exact ⟨none, rfl, .absent, rfl, Nat.zero_le _⟩
      · have hPort := normalPort_digits scheme hDigits hEmpty hLength
        by_cases hDefault : defaultPort? scheme = some (Nat.ofDigitChars 10 ds 0 : Int)
        · rw [if_pos hDefault] at hPort
          exact ⟨none, hPort, .absent, rfl, Nat.zero_le _⟩
        · rw [if_neg hDefault] at hPort
          have hOwn : ∀ d ∈ Nat.toDigits 10 (Nat.ofDigitChars 10 ds 0), d.isDigit = true :=
            fun d hd => Nat.isDigit_of_mem_toDigits (by decide) (by decide) hd
          have hShort : (Nat.toDigits 10 (Nat.ofDigitChars 10 ds 0)).length ≤ ds.length :=
            (Nat.length_toDigits_le_iff (by decide) (List.length_pos_iff.mpr hEmpty)).mpr
              (Text.ofDigitChars_lt hDigits)
          have hAgain := normalPort_digits scheme hOwn Nat.toDigits_ne_nil
            (hShort.trans hLength)
          rw [Nat.ofDigitChars_ten_toDigits, if_neg hDefault] at hAgain
          refine ⟨some (Nat.ofDigitChars 10 ds 0 : Int), hPort,
            .digits hOwn (hShort.trans hLength), hAgain, ?_⟩
          have hWritten : (portPart (some (Nat.ofDigitChars 10 ds 0 : Int))).length =
              (Nat.toDigits 10 (Nat.ofDigitChars 10 ds 0)).length + 1 := by
            simp [portPart, Text.ofInt, Text.ofNat, Text.ofString, Text.ofChars, Nat.add_comm]
          rw [hWritten, List.length_cons, Text.ofChars, List.length_map]
          exact Nat.succ_le_succ hShort

/-! ### Cutting an authority -/

theorem splitAfterLast?_of_notMem {mark : CodePoint} {t : Text} (h : mark ∉ t) :
    splitAfterLast? mark t = none := by
  have hSpan : t.reverse.span (· ≠ mark) = (t.reverse, []) := by
    rw [Text.span_eq_iff]
    refine ⟨(List.append_nil _).symm, ?_, by simp⟩
    intro c hc
    exact decide_eq_true (ne_of_mem_of_not_mem (List.mem_reverse.mp hc) h)
  rw [splitAfterLast?, hSpan]
  rfl

/-- A text is cut behind the last of its marks. -/
theorem splitAfterLast?_append {mark : CodePoint} (before : Text) {after : Text}
    (h : mark ∉ after) :
    splitAfterLast? mark (before ++ mark :: after) = some (before ++ [mark], after) := by
  have hSpan : (before ++ mark :: after).reverse.span (· ≠ mark) =
      (after.reverse, mark :: before.reverse) := by
    rw [Text.span_eq_iff]
    refine ⟨by simp, ?_, ?_⟩
    · intro c hc
      exact decide_eq_true (ne_of_mem_of_not_mem (List.mem_reverse.mp hc) h)
    · rintro c ⟨⟩
      simp
  rw [splitAfterLast?, hSpan]
  simp

theorem IsPortPart.unmark {part : Text} (h : IsPortPart part) :
    (if part.head? = some (.scalar ':') then part.drop 1 else part) = part.drop 1 := by
  cases h with
  | absent => rfl
  | digits => rfl

/-- A name without marks is cut off from its port. -/
theorem splitAuthority_of_name {host part : Text} (hPart : IsPortPart part)
    (hHost : ∀ c ∈ host, c ≠ .scalar '@' ∧ c ≠ .scalar ':' ∧ c ≠ .scalar '[') :
    splitAuthority (host ++ part) = ([], host, part.drop 1) := by
  have hUserinfo : .scalar '@' ∉ host ++ part := by
    rw [List.mem_append, not_or]
    refine ⟨fun hMark => (hHost _ hMark).1 rfl, fun hMark => ?_⟩
    rcases hPart.mem hMark with hColon | hDigit
    · cases hColon
    · exact absurd hDigit (by decide)
  have hOpen : (host ++ part).head? ≠ some (.scalar '[') := by
    intro hHead
    rcases List.mem_append.mp (List.mem_of_mem_head? hHead) with hMark | hMark
    · exact (hHost _ hMark).2.2 rfl
    · rcases hPart.mem hMark with hColon | hDigit
      · cases hColon
      · exact absurd hDigit (by decide)
  have hSpan : (host ++ part).span (fun c => c ≠ .scalar ':' && c ≠ .scalar '@') =
      (host, part) := by
    rw [Text.span_eq_iff]
    refine ⟨rfl, ?_, ?_⟩
    · intro c hc
      simp [hHost c hc]
    · intro c hc
      cases hPart with
      | absent => cases hc
      | digits =>
          obtain rfl : .scalar ':' = c := Option.some.inj hc
          decide
  rw [splitAuthority, splitAfterLast?_of_notMem hUserinfo]
  simp only [Option.getD_none, if_neg hOpen, hSpan, hPart.unmark, List.dropLast_nil]

/-- Brackets keep the colons in an address from being taken for a port. -/
theorem splitAuthority_of_brackets {inner part : Text} (hPart : IsPortPart part)
    (hInner : .scalar '@' ∉ inner) :
    splitAuthority ("[" ++ inner ++ "]" ++ part) = ([], "[" ++ inner ++ "]", part.drop 1) := by
  have hText : ("[" ++ inner ++ "]" ++ part : Text) =
      (.scalar '[' :: inner) ++ .scalar ']' :: part := by
    simp [Text.ofString, Text.ofChars]
  have hWhole : ("[" ++ inner ++ "]" : Text) = (.scalar '[' :: inner) ++ [.scalar ']'] := by
    simp [Text.ofString, Text.ofChars]
  have hUserinfo : .scalar '@' ∉ (.scalar '[' :: inner) ++ .scalar ']' :: part := by
    simp only [List.mem_append, List.mem_cons, not_or]
    refine ⟨⟨by decide, hInner⟩, by decide, fun hMark => ?_⟩
    rcases hPart.mem hMark with hColon | hDigit
    · cases hColon
    · exact absurd hDigit (by decide)
  have hClosed : .scalar ']' ∉ part := by
    intro hMark
    rcases hPart.mem hMark with hColon | hDigit
    · cases hColon
    · exact absurd hDigit (by decide)
  rw [hText, hWhole, splitAuthority, splitAfterLast?_of_notMem hUserinfo]
  simp only [Option.getD_none, List.cons_append, List.head?_cons, if_true]
  rw [← List.cons_append, splitAfterLast?_append _ hClosed]
  simp only [Option.getD_some, hPart.unmark, List.dropLast_nil, List.cons_append]

end Url

end DemurrageToken
