import DemurrageToken.Proofs.Entries
import DemurrageToken.Proofs.Except
import DemurrageToken.Proofs.JsonGrammar
import DemurrageToken.Proofs.Text
import DemurrageToken.Proofs.Utf8
import Mathlib.Tactic.SplitIfs

/-! Strings, numbers, words and blanks are read exactly as the grammar derives
them. Soundness says what a step has taken off the front of a text;
completeness puts a derived text in front of an arbitrary rest, of which only
the first code point matters to a number. -/
namespace DemurrageToken.Json

open Grammar

/-! ### Strings -/

/-- Both ranges are finite, so the two directions are checked by evaluation. -/
theorem hexValue?_eq_some_iff {c : CodePoint} {n : Nat} :
    hexValue? c = some n ↔ HexDigit c n := by
  have hRead : ∀ m : Fin 128, ∀ n : Fin 16, hexValue? (CodePoint.ofNat m) = some n.val →
      CodePoint.ofNat m = .scalar n.val.digitChar ∨
        CodePoint.ofNat m = .scalar n.val.digitChar.toUpper := by
    decide +kernel
  have hWritten : ∀ n : Fin 16, hexValue? (.scalar n.val.digitChar) = some n.val ∧
      hexValue? (.scalar n.val.digitChar.toUpper) = some n.val := by
    decide +kernel
  constructor
  · intro h
    have hRange : c.val < 128 ∧ n < 16 := by
      simp only [hexValue?] at h
      split_ifs at h <;> simp only [Option.some.injEq] at h <;> omega
    have hCases := hRead ⟨c.val, hRange.1⟩ ⟨n, hRange.2⟩
    rw [CodePoint.ofNat_val] at hCases
    exact ⟨hRange.2, hCases h⟩
  · rintro ⟨hn, rfl | rfl⟩
    · exact (hWritten ⟨n, hn⟩).1
    · exact (hWritten ⟨n, hn⟩).2

/-- Four hexadecimal digits are a code unit, the first one counting most. -/
theorem unit?_eq_some_iff {c₁ c₂ c₃ c₄ : CodePoint} {n : Nat} :
    unit? c₁ c₂ c₃ c₄ = some n ↔ ∃ n₁ n₂ n₃ n₄, HexDigit c₁ n₁ ∧ HexDigit c₂ n₂ ∧
      HexDigit c₃ n₃ ∧ HexDigit c₄ n₄ ∧ n = n₁ * 0x1000 + n₂ * 0x100 + n₃ * 0x10 + n₄ := by
  simp only [unit?, ← hexValue?_eq_some_iff]
  constructor
  · intro h
    simp only [bind, Option.bind_eq_some_iff, pure, Option.some.injEq] at h
    obtain ⟨n₁, h₁, n₂, h₂, n₃, h₃, n₄, h₄, hn⟩ := h
    exact ⟨n₁, n₂, n₃, n₄, h₁, h₂, h₃, h₄, by omega⟩
  · rintro ⟨n₁, n₂, n₃, n₄, h₁, h₂, h₃, h₄, rfl⟩
    simp only [h₁, h₂, h₃, h₄, bind, pure, Option.bind_some, Option.some.injEq]
    omega

/-- The letters that may follow a backslash are those of the table of the grammar,
and each means what the table says. -/
theorem shortEscape?_eq_some_iff {c : CodePoint} {meaning : Char} :
    shortEscape? c = some meaning ↔
      ∃ letter, c = .scalar letter ∧ (letter, meaning) ∈ shortEscapes := by
  constructor
  · intro h
    simp only [shortEscape?] at h
    split_ifs at h <;> (cases h; exact ⟨_, by assumption, by decide⟩)
  · rintro ⟨letter, rfl, h⟩
    simp only [shortEscapes, List.mem_cons, Prod.mk.injEq, List.not_mem_nil, or_false] at h
    rcases h with ⟨rfl, rfl⟩ | ⟨rfl, rfl⟩ | ⟨rfl, rfl⟩ | ⟨rfl, rfl⟩ | ⟨rfl, rfl⟩ | ⟨rfl, rfl⟩ |
      ⟨rfl, rfl⟩ | ⟨rfl, rfl⟩ <;> rfl

theorem pieces_quote (opening rest : Text) :
    pieces opening (.scalar '"' :: rest) = .ok ([], rest) := by
  rw [pieces.eq_def]
  rfl

/-- A character that needs no escape stands for itself, and the rest of the string is
read on its own. -/
theorem pieces_plain {c : CodePoint} (hControl : 0x20 ≤ c.val) (hQuote : c ≠ .scalar '"')
    (hBackslash : c ≠ .scalar '\\') (opening rest : Text) :
    pieces opening (c :: rest) =
      (pieces opening rest).map fun (ps, left) => (.plain c :: ps, left) := by
  rw [pieces.eq_def]
  simp only [if_neg hQuote, if_neg hBackslash, if_neg (Nat.not_lt.mpr hControl)]

/-- An escape of one letter stands for what the letter means. -/
theorem pieces_short {letter : CodePoint} {meaning : Char} (hLetter : letter ≠ .scalar 'u')
    (h : shortEscape? letter = some meaning) (opening rest : Text) :
    pieces opening (.scalar '\\' :: letter :: rest) =
      (pieces opening rest).map fun (ps, left) => (.plain (.scalar meaning) :: ps, left) := by
  rw [pieces.eq_def]
  simp only [if_neg (by decide : ¬CodePoint.scalar '\\' = .scalar '"'), if_true, if_neg hLetter, h]

/-- A unit escape is only taken if something follows its four digits. -/
theorem pieces_unit {c₁ c₂ c₃ c₄ next : CodePoint} {n : Nat} (h : unit? c₁ c₂ c₃ c₄ = some n)
    (opening after : Text) :
    pieces opening (.scalar '\\' :: .scalar 'u' :: c₁ :: c₂ :: c₃ :: c₄ :: next :: after) =
      (pieces opening (next :: after)).map fun (ps, left) => (.unit n :: ps, left) := by
  rw [pieces.eq_def]
  simp only [if_neg (by decide : ¬CodePoint.scalar '\\' = .scalar '"'), if_true, h]

/-- Completeness for the body of a string: what spells some pieces is read as those
pieces, up to the quotation mark that closes it. -/
theorem pieces_of_spelling {t : Text} {ps : List Piece} (h : Spelling t ps)
    (opening rest : Text) :
    pieces opening (t ++ .scalar '"' :: rest) = .ok (ps, rest) := by
  induction h with
  | nil => exact pieces_quote opening rest
  | plain hControl hQuote hBackslash _ ih =>
      rw [List.cons_append, pieces_plain hControl hQuote hBackslash, ih]
      rfl
  | @short letter meaning t ps h _ ih =>
      have hLetter : CodePoint.scalar letter ≠ .scalar 'u' := by
        rintro ⟨rfl⟩
        exact absurd h (by simp [shortEscapes])
      have hShort := shortEscape?_eq_some_iff.mpr ⟨letter, rfl, h⟩
      rw [List.cons_append, List.cons_append, pieces_short hLetter hShort, ih]
      rfl
  | @unit c₁ c₂ c₃ c₄ n₁ n₂ n₃ n₄ t ps h₁ h₂ h₃ h₄ _ ih =>
      have hUnit := unit?_eq_some_iff.mpr ⟨n₁, n₂, n₃, n₄, h₁, h₂, h₃, h₄, rfl⟩
      obtain ⟨next, after, hNext⟩ : ∃ next after, t ++ .scalar '"' :: rest = next :: after := by
        cases t <;> exact ⟨_, _, rfl⟩
      rw [hNext] at ih
      simp only [List.cons_append, hNext]
      rw [pieces_unit hUnit, ih]
      rfl

/-- Soundness for the body of a string: what has been read up to the closing mark
spells the pieces that were found. -/
theorem spelling_of_pieces {opening t rest : Text} {ps : List Piece}
    (h : pieces opening t = .ok (ps, rest)) :
    ∃ body, t = body ++ .scalar '"' :: rest ∧ Spelling body ps := by
  fun_induction pieces opening t generalizing ps with
  | case1 | case3 | case5 | case6 | case8 | case9 => cases h
  | case2 left =>
      cases h
      exact ⟨[], rfl, .nil⟩
  | case4 c₁ c₂ c₃ c₄ next after n hUnit hBackslash ih =>
      obtain ⟨⟨ps', left⟩, hRest, hEq⟩ := Except.map_eq_ok_iff.mp h
      cases hEq
      obtain ⟨n₁, n₂, n₃, n₄, h₁, h₂, h₃, h₄, rfl⟩ := unit?_eq_some_iff.mp hUnit
      obtain ⟨body, hBody, hSpelling⟩ := ih hRest
      exact ⟨_, by rw [hBody]; rfl, .unit h₁ h₂ h₃ h₄ hSpelling⟩
  | case7 letter more hLetter plain hShort hBackslash ih =>
      obtain ⟨⟨ps', left⟩, hRest, hEq⟩ := Except.map_eq_ok_iff.mp h
      cases hEq
      obtain ⟨char, rfl, hEscape⟩ := shortEscape?_eq_some_iff.mp hShort
      obtain ⟨body, rfl, hSpelling⟩ := ih hRest
      exact ⟨_, rfl, .short hEscape hSpelling⟩
  | case10 c more hQuote hBackslash hControl ih =>
      obtain ⟨⟨ps', left⟩, hRest, hEq⟩ := Except.map_eq_ok_iff.mp h
      cases hEq
      obtain ⟨body, rfl, hSpelling⟩ := ih hRest
      exact ⟨_, rfl, .plain (Nat.not_lt.mp hControl) hQuote hBackslash hSpelling⟩

theorem isHighSurrogate_iff {unit : Nat} : Wide.isHighSurrogate unit = true ↔ IsHigh unit := by
  simp [Wide.isHighSurrogate, IsHigh]

theorem isLowSurrogate_iff {unit : Nat} : Wide.isLowSurrogate unit = true ↔ IsLow unit := by
  simp [Wide.isLowSurrogate, IsLow]

/-- Joining units takes a high surrogate and a low one right behind it together, and
keeps all others apart. -/
theorem joined_joinPieces (ps : List Piece) : Joined ps (joinPieces ps) := by
  fun_induction joinPieces ps with
  | case1 high low rest hPair ih =>
      rw [Bool.and_eq_true, isHighSurrogate_iff, isLowSurrogate_iff] at hPair
      exact .pair hPair.1 hPair.2 ih
  | case2 high low rest hPair ih =>
      rw [Bool.and_eq_true, isHighSurrogate_iff, isLowSurrogate_iff] at hPair
      refine .alone (fun low' more hEq => ?_) ih
      cases hEq
      exact hPair
  | case3 n rest hNext ih => exact .alone (fun low more hEq => (hNext low more hEq).elim) ih
  | case4 c rest ih => exact .plain ih
  | case5 => exact .nil

/-- The grammar leaves no choice in which units are taken together. -/
theorem joinPieces_of_joined {ps : List Piece} {s : Text} (h : Joined ps s) :
    joinPieces ps = s := by
  induction h with
  | nil => simp [joinPieces]
  | plain _ ih => rw [joinPieces, ih]
  | pair hHigh hLow _ ih =>
      rw [joinPieces, isHighSurrogate_iff.mpr hHigh, isLowSurrogate_iff.mpr hLow, ih]
      rfl
  | @alone n ps s hAlone _ ih =>
      rw [joinPieces.eq_def]
      cases ps with
      | nil => simpa [joinPieces] using ih
      | cons piece more =>
          cases piece with
          | plain c => exact congrArg _ ih
          | unit low =>
              have hPair : ¬(Wide.isHighSurrogate n && Wide.isLowSurrogate low) = true := by
                rw [Bool.and_eq_true, isHighSurrogate_iff, isLowSurrogate_iff]
                exact hAlone low more rfl
              simp only [if_neg hPair, ih]

/-- A quoted string is read back whatever follows it. -/
theorem readString_of_quoted {k s : Text} (h : Quoted k s) (rest : Text) :
    ∃ inner, k ++ rest = .scalar '"' :: inner ∧ readString inner = .ok (s, rest) := by
  obtain ⟨hSpelling, hJoined⟩ := h
  rename_i t ps
  refine ⟨t ++ .scalar '"' :: rest, by simp, ?_⟩
  rw [readString, pieces_of_spelling hSpelling, ← joinPieces_of_joined hJoined]
  rfl

/-- What is read as a string was quoted. -/
theorem quoted_of_readString {inner rest s : Text} (h : readString inner = .ok (s, rest)) :
    ∃ k, .scalar '"' :: inner = k ++ rest ∧ Quoted k s := by
  obtain ⟨⟨ps, left⟩, hPieces, hEq⟩ := Except.map_eq_ok_iff.mp h
  cases hEq
  obtain ⟨body, rfl, hSpelling⟩ := spelling_of_pieces hPieces
  exact ⟨.scalar '"' :: (body ++ [.scalar '"']), by simp, .mk hSpelling (joined_joinPieces ps)⟩

/-! ### Numbers -/

/-- What may follow a value: nothing, a blank, a comma or a closing bracket.
None of these extends a number. -/
def Ends (rest : Text) : Prop :=
  ∀ c, rest.head? = some c → c ∈ Text.ofString " \t\n\r,]\x7d"

/-- A character that may not follow a value does not follow it. -/
theorem Ends.head_ne {rest : Text} (h : Ends rest) {c : Char}
    (hc : CodePoint.scalar c ∉ Text.ofString " \t\n\r,]\x7d") :
    rest.head? ≠ some (.scalar c) :=
  fun hHead => hc (h _ hHead)

/-- No digit follows a value, so that a run of digits has an end there. -/
theorem Ends.head_isDigit {rest : Text} (h : Ends rest) (c : Char)
    (hHead : rest.head? = some (.scalar c)) : c.isDigit = false := by
  have hAll : ∀ c ∈ " \t\n\r,]\x7d".toList, c.isDigit = false := by simp
  have hMem := h _ hHead
  simp only [Text.ofString, Text.ofChars, List.mem_map] at hMem
  obtain ⟨c', hc', hEq⟩ := hMem
  cases hEq
  exact hAll c hc'

/-- A run of digits is taken as far as it goes. -/
theorem digitRun_append {ds : List Char} (hDigits : ∀ d ∈ ds, d.isDigit = true) {rest : Text}
    (hRest : ∀ c, rest.head? = some (.scalar c) → c.isDigit = false) :
    digitRun (Text.ofChars ds ++ rest) = (ds, rest) := by
  induction ds with
  | nil =>
      cases rest with
      | nil => rfl
      | cons c rest =>
          cases c with
          | surrogate i => rfl
          | scalar c => simp [Text.ofChars, digitRun, hRest c rfl]
  | cons d ds ih =>
      have hHead := hDigits d (List.mem_cons_self ..)
      have hTail := ih fun d' hd' => hDigits d' (List.mem_cons_of_mem _ hd')
      simp only [Text.ofChars, List.map_cons, List.cons_append] at hTail ⊢
      rw [digitRun, if_pos hHead, hTail]

/-- A run of digits consists of digits and is cut off the front. -/
theorem eq_append_of_digitRun {t left : Text} {ds : List Char} (h : digitRun t = (ds, left)) :
    t = Text.ofChars ds ++ left ∧ ∀ d ∈ ds, d.isDigit = true := by
  fun_induction digitRun t generalizing ds left with
  | case1 c rest hDigit ds' left' hRun ih =>
      cases h
      obtain ⟨rfl, hAll⟩ := ih hRun
      exact ⟨rfl, List.forall_mem_cons.mpr ⟨hDigit, hAll⟩⟩
  | case2 c rest hDigit =>
      cases h
      exact ⟨rfl, by simp⟩
  | case3 t hNone =>
      cases h
      exact ⟨rfl, by simp⟩

/-- The digits in front of a point are taken whole, if no digit follows them. -/
theorem wholePart_append {whole : List Char} (hWhole : Whole whole) {rest : Text}
    (hRest : ∀ c, rest.head? = some (.scalar c) → c.isDigit = false) :
    wholePart (Text.ofChars whole ++ rest) = some (whole, rest) := by
  rcases hWhole with rfl | ⟨⟨hNonempty, hDigits⟩, hHead⟩
  · rfl
  · cases whole with
    | nil => exact (hNonempty rfl).elim
    | cons d ds =>
        have hZero : d ≠ '0' := fun hd => hHead (by rw [hd]; rfl)
        have hRun := digitRun_append hDigits hRest
        simp only [Text.ofChars, List.map_cons, List.cons_append] at hRun ⊢
        rw [wholePart, if_neg hZero, if_pos (hDigits d (List.mem_cons_self ..)), hRun]

/-- What is taken as the digits in front of a point is a zero or starts with another
digit. -/
theorem whole_of_wholePart {t left : Text} {whole : List Char}
    (h : wholePart t = some (whole, left)) :
    t = Text.ofChars whole ++ left ∧ Whole whole := by
  unfold wholePart at h
  split at h
  · next c rest =>
      split_ifs at h with hZero hDigit
      · subst hZero
        cases h
        exact ⟨rfl, .inl rfl⟩
      · have hRun : digitRun (.scalar c :: rest) = (whole, left) := by simpa using h
        obtain ⟨hEq, hDigits⟩ := eq_append_of_digitRun hRun
        refine ⟨hEq, .inr ⟨⟨?_, hDigits⟩, ?_⟩⟩
        · rintro rfl
          rw [digitRun, if_pos hDigit] at hRun
          cases hRun
        · rintro hHead
          cases whole with
          | nil => cases hHead
          | cons d ds =>
              cases hHead
              cases hEq
              exact hZero rfl
  · cases h

/-- The digits behind a point are taken whole; without a point nothing is. -/
theorem fractionPart_append {f : Text} {fraction : List Char} (h : Fraction f fraction)
    {rest : Text} (hDigit : ∀ c, rest.head? = some (.scalar c) → c.isDigit = false)
    (hPoint : rest.head? ≠ some (.scalar '.')) :
    fractionPart (f ++ rest) = (fraction, rest) := by
  cases h with
  | absent =>
      rw [List.nil_append]
      unfold fractionPart
      split
      · exact (hPoint rfl).elim
      · rfl
  | digits h =>
      rw [List.cons_append, fractionPart, digitRun_append h.2 hDigit]
      cases hEq : fraction with
      | nil => exact (h.1 hEq).elim
      | cons d ds => rfl

/-- What is taken as a fraction is one, and a point without digits stays where it is. -/
theorem fraction_of_fractionPart {t left : Text} {fraction : List Char}
    (h : fractionPart t = (fraction, left)) : ∃ f, t = f ++ left ∧ Fraction f fraction := by
  unfold fractionPart at h
  split at h
  · next rest =>
      split at h
      · cases h
        exact ⟨[], rfl, .absent⟩
      · next hNonempty =>
          obtain ⟨rfl, hDigits⟩ := eq_append_of_digitRun h
          refine ⟨_, rfl, .digits ⟨?_, hDigits⟩⟩
          rintro rfl
          exact hNonempty _ h
  · cases h
    exact ⟨[], rfl, .absent⟩

/-- The sign of a power and what follows it, cut out of `exponentPart`. -/
def takePowerSign (t : Text) : Bool × Text :=
  match t with
  | .scalar '+' :: more => (false, more)
  | .scalar '-' :: more => (true, more)
  | _ => (false, t)

/-- The power of ten with its sign set apart: a mark without digits behind it is left
alone. -/
theorem exponentPart_cons (mark : Char) (rest : Text) :
    exponentPart (.scalar mark :: rest) =
      if mark = 'e' ∨ mark = 'E' then
        match digitRun (takePowerSign rest).2 with
        | ([], _) => (none, .scalar mark :: rest)
        | (ds, left) =>
            (some (signed (takePowerSign rest).1 (Nat.ofDigitChars 10 ds 0)), left)
      else (none, .scalar mark :: rest) := by
  simp only [exponentPart, takePowerSign, signed]
  rfl

/-- The sign of a power is taken, if there is one. -/
theorem takePowerSign_append {s : Text} {negative : Bool} (h : PowerSign s negative) {d : Char}
    (hDigit : d.isDigit = true) (rest : Text) :
    takePowerSign (s ++ .scalar d :: rest) = (negative, .scalar d :: rest) := by
  cases h with
  | absent =>
      rw [List.nil_append]
      unfold takePowerSign
      split
      · next hEq => cases hEq; exact absurd hDigit (by decide)
      · next hEq => cases hEq; exact absurd hDigit (by decide)
      · rfl
  | plus => rfl
  | minus => rfl

/-- What is taken as the sign of a power is a sign or nothing. -/
theorem powerSign_takePowerSign (t : Text) :
    ∃ s, t = s ++ (takePowerSign t).2 ∧ PowerSign s (takePowerSign t).1 := by
  unfold takePowerSign
  split
  · exact ⟨_, rfl, .plus⟩
  · exact ⟨_, rfl, .minus⟩
  · exact ⟨[], rfl, .absent⟩

/-- A power is taken whole, as nothing that may follow a value extends it. -/
theorem exponentPart_append {p : Text} {power? : Option Int} (h : Power p power?) {rest : Text}
    (hRest : Ends rest) : exponentPart (p ++ rest) = (power?, rest) := by
  cases h with
  | absent =>
      rw [List.nil_append]
      unfold exponentPart
      split
      · next mark more =>
          have hLower : mark ≠ 'e' := by
            rintro rfl
            exact hRest.head_ne (by decide) rfl
          have hUpper : mark ≠ 'E' := by
            rintro rfl
            exact hRest.head_ne (by decide) rfl
          rw [if_neg (by simp [hLower, hUpper])]
      · rfl
  | @digits mark s negative ds hMark hSign h =>
      have hRun := digitRun_append h.2 hRest.head_isDigit
      obtain ⟨d, ds', rfl⟩ := List.exists_cons_of_ne_nil h.1
      have hDigit := h.2 d (List.mem_cons_self ..)
      simp only [Text.ofChars, List.map_cons, List.cons_append, List.append_assoc] at hRun ⊢
      rw [exponentPart_cons, if_pos hMark, takePowerSign_append hSign hDigit, hRun]

/-- What is taken as a power is one. -/
theorem power_of_exponentPart {t left : Text} {power? : Option Int}
    (h : exponentPart t = (power?, left)) : ∃ p, t = p ++ left ∧ Power p power? := by
  cases t with
  | nil => cases h; exact ⟨[], rfl, .absent⟩
  | cons c rest =>
      cases c with
      | surrogate i => cases h; exact ⟨[], rfl, .absent⟩
      | scalar mark =>
          rw [exponentPart_cons] at h
          split_ifs at h with hMark
          · obtain ⟨s, hRest, hSign⟩ := powerSign_takePowerSign rest
            split at h
            · cases h
              exact ⟨[], rfl, .absent⟩
            · next ds left' hNonempty hRun =>
                cases h
                obtain ⟨hEq, hDigits⟩ := eq_append_of_digitRun hRun
                refine ⟨.scalar mark :: (s ++ Text.ofChars ds), ?_, .digits hMark hSign
                  ⟨fun hNil => hNonempty hNil, hDigits⟩⟩
                rw [List.cons_append, List.append_assoc, ← hEq, ← hRest]
          · cases h
            exact ⟨[], rfl, .absent⟩

/-- The sign of a number and what follows it, cut out of `readNumber`. -/
def takeSign (t : Text) : Bool × Text :=
  match t with
  | .scalar '-' :: more => (true, more)
  | _ => (false, t)

/-- What `readNumber` does behind the sign. -/
def readUnsigned (t : Text) (negative : Bool) (unsigned : Text) : Except Stop (Json × Text) :=
  match wholePart unsigned with
  | none => .error (.defect .value t)
  | some (whole, afterWhole) =>
      let (fraction, afterFraction) := fractionPart afterWhole
      let (power?, left) := exponentPart afterFraction
      if fraction = [] ∧ power? = none then
        if Text.integerDigitLimit < whole.length then .error (.digits whole.length)
        else .ok (.int (signed negative (Nat.ofDigitChars 10 whole 0)), left)
      else
        .ok (.float (Binary64.ofDecimal negative
          ⟨Nat.ofDigitChars 10 (whole ++ fraction) 0, power?.getD 0 - fraction.length⟩), left)

theorem readNumber_eq (t : Text) :
    readNumber t = readUnsigned t (takeSign t).1 (takeSign t).2 := by
  unfold readNumber
  split
  · next negative unsigned hSign =>
      have hTake : takeSign t = (negative, unsigned) := hSign
      rw [hTake]
      rfl

/-- Taking the sign of a number off loses nothing. -/
theorem sign_append_takeSign (t : Text) : t = sign (takeSign t).1 ++ (takeSign t).2 := by
  unfold takeSign
  split <;> rfl

/-- The digits before the point begin with one. -/
theorem Grammar.Whole.head {whole : List Char} (h : Whole whole) :
    ∃ d ds, whole = d :: ds ∧ d.isDigit = true := by
  rcases h with rfl | ⟨⟨hNonempty, hDigits⟩, -⟩
  · exact ⟨'0', [], rfl, rfl⟩
  · obtain ⟨d, ds, rfl⟩ := List.exists_cons_of_ne_nil hNonempty
    exact ⟨d, ds, rfl, hDigits d (List.mem_cons_self ..)⟩

/-- A number in front of which there is a minus is negative, and no other is. -/
theorem takeSign_append {negative : Bool} {whole : List Char} (hWhole : Whole whole)
    (rest : Text) :
    takeSign (sign negative ++ (Text.ofChars whole ++ rest)) =
      (negative, Text.ofChars whole ++ rest) := by
  cases negative with
  | true => rfl
  | false =>
      obtain ⟨d, ds, rfl, hDigit⟩ := hWhole.head
      have hMinus : d ≠ '-' := by
        rintro rfl
        exact absurd hDigit (by decide)
      simp only [sign, Bool.false_eq_true, if_false, List.nil_append, Text.ofChars, List.map_cons,
        List.cons_append]
      unfold takeSign
      split
      · next hEq => cases hEq; exact (hMinus rfl).elim
      · rfl

/-- A number behind its sign, once its three parts are known: an integer if only the
first is there, and a float otherwise. -/
theorem readUnsigned_eq {t unsigned afterWhole afterFraction left : Text}
    {whole fraction : List Char} {power? : Option Int} (negative : Bool)
    (hWhole : wholePart unsigned = some (whole, afterWhole))
    (hFraction : fractionPart afterWhole = (fraction, afterFraction))
    (hPower : exponentPart afterFraction = (power?, left)) :
    readUnsigned t negative unsigned =
      if fraction = [] ∧ power? = none then
        if Text.integerDigitLimit < whole.length then .error (.digits whole.length)
        else .ok (.int (signed negative (Nat.ofDigitChars 10 whole 0)), left)
      else
        .ok (.float (Binary64.ofDecimal negative
          ⟨Nat.ofDigitChars 10 (whole ++ fraction) 0, power?.getD 0 - fraction.length⟩), left) := by
  simp only [readUnsigned, hWhole, hFraction, hPower]

/-- Behind the digits before the point there is no digit, since a power begins
with a mark. -/
theorem Grammar.Power.head_append {p : Text} {power? : Option Int} (h : Power p power?)
    {rest : Text} (hRest : Ends rest) :
    (∀ c, (p ++ rest).head? = some (.scalar c) → c.isDigit = false) ∧
      (p ++ rest).head? ≠ some (.scalar '.') := by
  cases h with
  | absent => exact ⟨hRest.head_isDigit, hRest.head_ne (by decide)⟩
  | digits hMark _ _ =>
      rcases hMark with rfl | rfl
      · exact ⟨fun c hc => by cases hc; rfl, by simp⟩
      · exact ⟨fun c hc => by cases hc; rfl, by simp⟩

theorem Grammar.Fraction.head_append {f : Text} {fraction : List Char} (h : Fraction f fraction)
    {rest : Text} (hDigit : ∀ c, rest.head? = some (.scalar c) → c.isDigit = false)
    (c : Char) (hHead : (f ++ rest).head? = some (.scalar c)) : c.isDigit = false := by
  cases h with
  | absent => exact hDigit c hHead
  | digits _ => cases hHead; rfl

/-- Completeness for numbers, in front of anything that may follow a value. -/
theorem readNumber_of_number {t : Text} {v : Json} (h : Number t v) {rest : Text}
    (hRest : Ends rest) : readNumber (t ++ rest) = .ok (v, rest) := by
  cases h with
  | @integer negative whole hWhole hLimit =>
      have hFraction := fractionPart_append .absent hRest.head_isDigit (hRest.head_ne (by decide))
      have hPower := exponentPart_append .absent hRest
      rw [readNumber_eq, List.append_assoc, takeSign_append hWhole,
        readUnsigned_eq negative (wholePart_append hWhole hRest.head_isDigit) hFraction hPower,
        if_pos ⟨rfl, rfl⟩, if_neg (Nat.not_lt.mpr hLimit)]
  | @float negative whole fraction f p power? hWhole hFraction hPower hFloat =>
      obtain ⟨hDigit, hPoint⟩ := hPower.head_append hRest
      have hWholePart := wholePart_append hWhole (hFraction.head_append hDigit)
      simp only [List.append_assoc] at *
      rw [readNumber_eq, takeSign_append hWhole, readUnsigned_eq negative hWholePart
        (fractionPart_append hFraction hDigit hPoint) (exponentPart_append hPower hRest),
        if_neg (by simpa only [not_and_or] using hFloat)]

/-- Soundness for numbers: the three parts that were taken make up a number, and the
value is the number's. -/
theorem number_of_readNumber {t left : Text} {v : Json} (h : readNumber t = .ok (v, left)) :
    ∃ u, t = u ++ left ∧ Number u v := by
  have hSign := sign_append_takeSign t
  rw [readNumber_eq] at h
  generalize (takeSign t).1 = negative at h hSign
  cases hWholeRun : wholePart (takeSign t).2 with
  | none =>
      rw [readUnsigned, hWholeRun] at h
      cases h
  | some found =>
      obtain ⟨whole, afterWhole⟩ := found
      rcases hFractionRun : fractionPart afterWhole with ⟨fraction, afterFraction⟩
      rcases hPowerRun : exponentPart afterFraction with ⟨power?, left'⟩
      rw [readUnsigned_eq _ hWholeRun hFractionRun hPowerRun] at h
      obtain ⟨hEq, hWhole⟩ := whole_of_wholePart hWholeRun
      obtain ⟨f, hAfterWhole, hFraction⟩ := fraction_of_fractionPart hFractionRun
      obtain ⟨p, hAfterFraction, hPower⟩ := power_of_exponentPart hPowerRun
      rw [hEq, hAfterWhole, hAfterFraction] at hSign
      split_ifs at h with hInteger hLimit
      -- An integer is what has neither of the other two parts, not even an empty one.
      · cases h
        obtain ⟨rfl, rfl⟩ := hInteger
        cases hPower
        cases hFraction with
        | digits hDigits => exact (hDigits.1 rfl).elim
        | absent =>
            exact ⟨_, by rw [hSign, List.append_assoc]; rfl,
              .integer hWhole (Nat.not_lt.mp hLimit)⟩
      · cases h
        exact ⟨_, by rw [hSign]; simp only [List.append_assoc],
          .float hWhole hFraction hPower (by simpa only [not_and_or] using hInteger)⟩

/-! ### Blanks and words -/

theorem isBlank_iff {c : CodePoint} : isBlank c = true ↔ c ∈ Text.ofString " \t\n\r" := by
  have hList : Text.ofString " \t\n\r" =
      [.scalar ' ', .scalar '\t', .scalar '\n', .scalar '\r'] := rfl
  simp [isBlank, hList, or_assoc]

/-- Only blanks are skipped. -/
theorem skipBlank_split (t : Text) : ∃ b, t = b ++ skipBlank t ∧ Blank b := by
  refine ⟨t.takeWhile isBlank, (List.takeWhile_append_dropWhile ..).symm, fun c hc => ?_⟩
  exact isBlank_iff.mp (List.mem_takeWhile_imp hc)

/-- Blanks are skipped up to whatever is no blank. -/
theorem skipBlank_append {b : Text} (hb : Blank b) {c : CodePoint} (hc : isBlank c = false)
    (rest : Text) : skipBlank (b ++ c :: rest) = c :: rest := by
  rw [skipBlank, List.dropWhile_append_of_pos fun d hd => isBlank_iff.mpr (hb d hd),
    List.dropWhile_cons_of_neg (by simp [hc])]

/-- Blanks are skipped to the end. -/
theorem skipBlank_of_blank {b : Text} (hb : Blank b) : skipBlank b = [] := by
  rw [skipBlank, List.dropWhile_eq_nil_iff]
  exact fun c hc => isBlank_iff.mpr (hb c hc)

theorem Ends.nil : Ends [] := fun _ h => by cases h

theorem Ends.of_mem {c : CodePoint} (h : c ∈ Text.ofString " \t\n\r,]\x7d") (rest : Text) :
    Ends (c :: rest) := by
  intro d hd
  cases hd
  exact h

/-- Blanks in front of something that may follow a value may follow it too. -/
theorem Ends.of_blank_append {b : Text} (hb : Blank b) {rest : Text} (hRest : Ends rest) :
    Ends (b ++ rest) := by
  cases b with
  | nil => exact hRest
  | cons c b =>
      have hIncluded : Text.ofString " \t\n\r" ⊆ Text.ofString " \t\n\r,]\x7d" := by decide
      exact Ends.of_mem (hIncluded (hb c (List.mem_cons_self ..))) _

/-- Completeness for the words, whatever follows them. -/
theorem readScalar_of_word {t : Text} {v : Json} (h : Word t v) (rest : Text) :
    readScalar (t ++ rest) = .ok (v, rest) := by
  cases h <;> rfl

/-- A number begins with a digit, behind a sign at most. -/
theorem Grammar.Number.head {t : Text} {v : Json} (h : Number t v) :
    ∃ d : Char, d.isDigit = true ∧ ∃ negative more, t = sign negative ++ .scalar d :: more := by
  cases h with
  | @integer negative whole hWhole _ =>
      obtain ⟨d, ds, rfl, hDigit⟩ := hWhole.head
      exact ⟨d, hDigit, negative, _, rfl⟩
  | @float negative whole fraction f p _ hWhole _ _ _ =>
      obtain ⟨d, ds, rfl, hDigit⟩ := hWhole.head
      exact ⟨d, hDigit, negative, _, by rw [List.append_assoc, List.append_assoc]; rfl⟩

/-- Completeness for numbers among the other scalars: no word starts like a number,
but for the sign of the negative infinity. -/
theorem readScalar_of_number {t : Text} {v : Json} (h : Number t v) {rest : Text}
    (hRest : Ends rest) : readScalar (t ++ rest) = .ok (v, rest) := by
  have hNone : ∀ entry ∈ words, Text.dropStart? entry.1 (t ++ rest) = none := by
    obtain ⟨d, hDigit, negative, more, rfl⟩ := h.head
    have hLetters : ∀ c, c.isDigit = false → c ≠ d := by
      rintro c hc rfl
      rw [hc] at hDigit
      cases hDigit
    have hn := hLetters 'n' rfl
    have ht := hLetters 't' rfl
    have hf := hLetters 'f' rfl
    have hN := hLetters 'N' rfl
    have hI := hLetters 'I' rfl
    have hMinus := hLetters '-' rfl
    cases negative <;>
      simp [words, sign, Text.ofString, Text.ofChars, Text.dropStart?, hn, ht, hf, hN, hI, hMinus]
  unfold readScalar
  split
  · next found hFound =>
      obtain ⟨⟨word, v'⟩, hMem, hDrop⟩ := List.exists_of_findSome?_eq_some hFound
      obtain ⟨left, hLeft, -⟩ := Option.map_eq_some_iff.mp hDrop
      cases (hNone _ hMem).symm.trans hLeft
  · exact readNumber_of_number h hRest

/-- Soundness for everything that is neither a string nor holds parts: it is a word
or a number. -/
theorem scalar_of_readScalar {t left : Text} {v : Json} (h : readScalar t = .ok (v, left)) :
    ∃ u, t = u ++ left ∧ (Word u v ∨ Number u v) := by
  have hWords : ∀ entry ∈ words, Word entry.1 entry.2 := by
    simp only [words, List.forall_mem_cons, List.not_mem_nil, false_implies, implies_true]
    exact ⟨.null, .true, .false, .nan, .infinity, .negativeInfinity, trivial⟩
  unfold readScalar at h
  split at h
  · next found hFound =>
      cases h
      obtain ⟨⟨word, v'⟩, hMem, hDrop⟩ := List.exists_of_findSome?_eq_some hFound
      obtain ⟨left', hLeft, hEq⟩ := Option.map_eq_some_iff.mp hDrop
      cases hEq
      exact ⟨word, Text.dropStart?_eq_some_iff.mp hLeft, .inl (hWords _ hMem)⟩
  · obtain ⟨u, hEq, hNumber⟩ := number_of_readNumber h
    exact ⟨u, hEq, .inr hNumber⟩

end DemurrageToken.Json
