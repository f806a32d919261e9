import DemurrageToken.Proofs.WrittenSettings

/-! Damage in a settings file stays on its line. However a line is broken, reading
stops at the end of that line, and what follows is read as if it stood alone;
only quotes can carry the end of a line into a value. -/
namespace DemurrageToken.Settings

/-! ### What reading leaves -/

/-- Dropping `export` leaves an end of the text. -/
theorem skipExport_suffix (t : Text) : skipExport t <:+ t := by
  rw [skipExport.eq_def]
  split
  · next c rest hDrop =>
      split
      · rw [Text.dropStart?_eq_some_iff] at hDrop
        rw [hDrop]
        exact (List.dropWhile_suffix _).trans
          ((List.suffix_cons c rest).trans (List.suffix_append _ _))
      · exact List.suffix_rfl
  · exact List.suffix_rfl

/-- A quoted part leaves an end of the text, after the quotes that close it. -/
theorem suffix_of_quotedPart {quote : CodePoint} {t part left : Text}
    (h : quotedPart quote t = some (part, left)) : left <:+ t := by
  fun_induction quotedPart quote t generalizing part with
  | case1 => cases h
  | case2 rest =>
      cases h
      exact List.suffix_cons _ _
  | case3 => cases h
  | case4 d more _ ih =>
      obtain ⟨⟨inner, left'⟩, hInner, hEq⟩ := Option.map_eq_some_iff.mp h
      cases hEq
      exact (ih hInner).trans ((List.suffix_cons d more).trans (List.suffix_cons _ _))
  | case5 c rest _ _ ih =>
      obtain ⟨⟨inner, left'⟩, hInner, hEq⟩ := Option.map_eq_some_iff.mp h
      cases hEq
      exact (ih hInner).trans (List.suffix_cons c rest)

theorem suffix_of_readValue {spaced : Bool} {t value left : Text}
    (h : readValue spaced t = some (value, left)) : left <:+ t := by
  rw [readValue.eq_def] at h
  split at h
  · obtain ⟨⟨part, left'⟩, hPart, hEq⟩ := Option.map_eq_some_iff.mp h
    cases hEq
    exact (suffix_of_quotedPart hPart).trans (List.suffix_cons _ _)
  · obtain ⟨⟨part, left'⟩, hPart, hEq⟩ := Option.map_eq_some_iff.mp h
    cases hEq
    exact (suffix_of_quotedPart hPart).trans (List.suffix_cons _ _)
  · split at h
    · cases h
      exact List.suffix_rfl
    · rw [List.span_eq_takeWhile_dropWhile] at h
      cases h
      exact List.dropWhile_suffix _

theorem suffix_of_readName {t name left : Text} (h : readName t = some (name, left)) :
    left <:+ t := by
  rw [readName.eq_def] at h
  split at h
  · next rest =>
      rw [List.span_eq_takeWhile_dropWhile] at h
      split at h
      · next inner c after hSpan =>
          split at h
          · cases h
          · cases h
            have hInner : c :: left <:+ rest := (Prod.mk.inj hSpan).2 ▸ List.dropWhile_suffix _
            exact (List.suffix_cons c left).trans (hInner.trans (List.suffix_cons _ _))
      · cases h
  · dsimp only at h
    rw [List.span_eq_takeWhile_dropWhile] at h
    split at h
    · cases h
    · cases h
      exact List.dropWhile_suffix _

theorem suffix_of_readAssigned {t left : Text} {value? : Option Text}
    (h : readAssigned t = .ok (value?, left)) : left <:+ t := by
  rw [readAssigned.eq_def] at h
  split at h
  · next rest hEquals =>
      have hRest : .scalar '=' :: rest <:+ t := hEquals ▸ List.dropWhile_suffix _
      dsimp only at h
      split at h
      · next value left' hValue =>
          cases h
          exact (suffix_of_readValue hValue).trans
            ((List.dropWhile_suffix _).trans ((List.suffix_cons _ rest).trans hRest))
      · cases h
  · cases h
    exact List.dropWhile_suffix _

/-- Where reading a value stopped, an end of the text is left. -/
theorem suffix_of_readAssigned_error {t stopped : Text} (h : readAssigned t = .error stopped) :
    stopped <:+ t := by
  rw [readAssigned.eq_def] at h
  split at h
  · next rest hEquals =>
      have hRest : .scalar '=' :: rest <:+ t := hEquals ▸ List.dropWhile_suffix _
      dsimp only at h
      split at h
      · cases h
      · cases h
        exact (List.dropWhile_suffix _).trans ((List.suffix_cons _ rest).trans hRest)
  · cases h

/-- A line that is skipped takes a character with it, if there is one. -/
theorem length_skipLine_lt {s t : Text} (hSuffix : s <:+ t) (ht : t ≠ []) :
    (skipLine s).length < t.length := by
  have hKept := (List.dropWhile_suffix (l := s) (!endsLine ·)).length_le
  have hLength := hSuffix.length_le
  have hPos := List.length_pos_of_ne_nil ht
  rw [skipLine, List.length_drop]
  omega

theorem length_skipLineEnd_lt {s t left : Text} (h : skipLineEnd s = some left) (hSuffix : s <:+ t)
    (ht : t ≠ []) : left.length < t.length := by
  have hLength := hSuffix.length_le
  have hKept := (List.dropWhile_suffix (l := s) CodePoint.isInnerBlank).length_le
  rw [skipLineEnd] at h
  split at h
  · cases h
    exact List.length_pos_of_ne_nil ht
  · next c rest hStart =>
      rw [hStart, List.length_cons] at hKept
      split at h
      · cases h
        have hComment := (List.dropWhile_suffix (l := rest) (!endsLine ·)).length_le
        rw [List.length_drop]
        omega
      · split at h
        · cases h
          omega
        · cases h

/-- Reading a line goes forward, whatever the line is. -/
theorem length_readLine_lt {t : Text} (ht : t ≠ []) : (readLine t).2.length < t.length := by
  have hStart := skipExport_suffix t
  rw [readLine]
  split
  · exact length_skipLine_lt hStart ht
  · next name afterName hName =>
      have hAfter : afterName <:+ t := by
        split at hName
        · cases hName
          exact hStart
        · exact (suffix_of_readName hName).trans hStart
      split
      · next stopped hError =>
          exact length_skipLine_lt ((suffix_of_readAssigned_error hError).trans hAfter) ht
      · next value afterValue hAssigned =>
          have hValue := (suffix_of_readAssigned hAssigned).trans hAfter
          split
          · exact length_skipLine_lt hValue ht
          · next left hEnd => exact length_skipLineEnd_lt hEnd hValue ht

/-- Lines are read one by one, the white space in front of each being dropped. -/
theorem bindingsWithin_eq (bound : Nat) (t : Text) :
    bindingsWithin (bound + 1) t =
      match t.dropWhile CodePoint.isBlank with
      | [] => []
      | first :: more =>
        (readLine (first :: more)).1.toList ++
          bindingsWithin bound (readLine (first :: more)).2 := by
  rw [bindingsWithin]
  cases t.dropWhile CodePoint.isBlank <;> rfl

/-- A bound that is not met changes nothing. -/
theorem bindingsWithin_congr {bound other : Nat} {t : Text} (hBound : t.length ≤ bound)
    (hOther : t.length ≤ other) : bindingsWithin bound t = bindingsWithin other t := by
  induction bound generalizing other t with
  | zero =>
      rw [List.length_eq_zero_iff.mp (Nat.le_zero.mp hBound)]
      cases other <;> rfl
  | succ bound ih =>
      cases other with
      | zero =>
          rw [List.length_eq_zero_iff.mp (Nat.le_zero.mp hOther)]
          rfl
      | succ other =>
          have hKept := (List.dropWhile_suffix (l := t) CodePoint.isBlank).length_le
          rw [bindingsWithin_eq, bindingsWithin_eq]
          cases hStart : t.dropWhile CodePoint.isBlank with
          | nil => rfl
          | cons first more =>
              have hShorter := length_readLine_lt (List.cons_ne_nil first more)
              rw [hStart] at hKept
              dsimp only
              rw [@ih other _ (by omega) (by omega)]

theorem bindings_eq (t : Text) :
    bindings t =
      match t.dropWhile CodePoint.isBlank with
      | [] => []
      | first :: more =>
        (readLine (first :: more)).1.toList ++ bindings (readLine (first :: more)).2 := by
  have hKept := (List.dropWhile_suffix (l := t) CodePoint.isBlank).length_le
  rw [bindings, bindingsWithin_congr (Nat.le_refl _) (Nat.le_succ _), bindingsWithin_eq]
  cases hStart : t.dropWhile CodePoint.isBlank with
  | nil => rfl
  | cons first more =>
      have hShorter := length_readLine_lt (List.cons_ne_nil first more)
      rw [hStart] at hKept
      dsimp only
      rw [bindings, @bindingsWithin_congr _ t.length _ (Nat.le_refl _) (by omega)]

/-! ### One line -/

/-- What a line may hold that opens no quotes. -/
def IsUnquoted (line : Text) : Prop :=
  ∀ c ∈ line, endsLine c = false ∧ c ≠ .scalar '\'' ∧ c ≠ .scalar '"'

theorem IsUnquoted.suffix {line part : Text} (h : IsUnquoted line) (hPart : part <:+ line) :
    IsUnquoted part := fun c hc => h c (hPart.subset hc)

section

variable {line : Text} (rest : Text)

/-- What stops at the end of a line does not see what follows. -/
theorem dropWhile_feed {p : CodePoint → Bool} (hp : p (.scalar '\n') = false) :
    (line ++ .scalar '\n' :: rest).dropWhile p = line.dropWhile p ++ .scalar '\n' :: rest := by
  rw [List.dropWhile_append]
  split
  · next hEmpty => rw [List.isEmpty_iff.mp hEmpty, List.dropWhile_cons_of_neg (by simp [hp]),
      List.nil_append]
  · rfl

/-- What a line feed stops is taken from the line alone. -/
theorem takeWhile_feed {p : CodePoint → Bool} (hp : p (.scalar '\n') = false) :
    (line ++ .scalar '\n' :: rest).takeWhile p = line.takeWhile p := by
  rw [List.takeWhile_append]
  split
  · next hWhole =>
      rw [List.takeWhile_cons_of_neg (by simp [hp]), List.append_nil,
        List.IsPrefix.eq_of_length (List.takeWhile_prefix p) hWhole]
  · rfl

theorem head?_feed_eq_iff {c : CodePoint} (hc : c ≠ .scalar '\n') :
    (line ++ .scalar '\n' :: rest).head? = some c ↔ line.head? = some c := by
  cases line with
  | nil => simp [Ne.symm hc]
  | cons d line => rfl

/-- A start without a line feed is found in the line or not at all. -/
theorem dropStart?_feed {start : Text} (hStart : .scalar '\n' ∉ start) :
    Text.dropStart? start (line ++ .scalar '\n' :: rest) =
      (Text.dropStart? start line).map (· ++ .scalar '\n' :: rest) := by
  induction start generalizing line with
  | nil => rfl
  | cons p start ih =>
      rw [List.mem_cons, not_or] at hStart
      cases line with
      | nil => simp [Text.dropStart?, Ne.symm hStart.1]
      | cons c line =>
          rw [List.cons_append, Text.dropStart?, Text.dropStart?, ih hStart.2]
          split <;> rfl

theorem skipExport_feed :
    skipExport (line ++ .scalar '\n' :: rest) = skipExport line ++ .scalar '\n' :: rest := by
  rw [skipExport, dropStart?_feed rest (by decide), skipExport]
  cases Text.dropStart? "export" line with
  | none => rfl
  | some after =>
      cases after with
      | nil => exact if_neg (by decide)
      | cons c after =>
          dsimp only [Option.map_some, List.cons_append]
          split
          · exact dropWhile_feed rest (by decide)
          · rfl

/-- What is skipped of a line without quotes ends at the line feed. -/
theorem skipLine_feed (hLine : IsUnquoted line) :
    skipLine (line ++ .scalar '\n' :: rest) = rest := by
  have hWhole : line.dropWhile (!endsLine ·) = [] :=
    List.dropWhile_eq_nil_iff.mpr fun c hc => by simp [(hLine c hc).1]
  rw [skipLine, dropWhile_feed rest rfl, hWhole]
  rfl

/-- A line ends at its own end or not at all. -/
theorem skipLineEnd_append_feed (hLine : IsUnquoted line) :
    skipLineEnd (line ++ .scalar '\n' :: rest) = (skipLineEnd line).map fun _ => rest := by
  have hStart := hLine.suffix (List.dropWhile_suffix CodePoint.isInnerBlank)
  rw [skipLineEnd, dropWhile_feed rest (by decide), skipLineEnd]
  cases hKept : line.dropWhile CodePoint.isInnerBlank with
  | nil => rfl
  | cons c more =>
      rw [hKept] at hStart
      dsimp only [List.cons_append]
      split
      · have hMore := skipLine_feed rest (hStart.suffix (List.suffix_cons c more))
        exact congrArg some hMore
      · rw [(hStart c (List.mem_cons_self ..)).1]
        rfl

theorem head?_ne_of_unquoted (hLine : IsUnquoted line) :
    line.head? ≠ some (.scalar '\'') ∧ line.head? ≠ some (.scalar '"') :=
  ⟨fun h => (hLine _ (List.mem_of_mem_head? h)).2.1 rfl,
    fun h => (hLine _ (List.mem_of_mem_head? h)).2.2 rfl⟩

/-- Reading a name does not look beyond a line without quotes. -/
theorem readName_feed (hLine : IsUnquoted line) :
    readName (line ++ .scalar '\n' :: rest) =
      (readName line).map fun found => (found.1, found.2 ++ .scalar '\n' :: rest) := by
  have hHead := (head?_ne_of_unquoted hLine).1
  obtain ⟨inName, hEnd, hUnquoted⟩ : ∃ inName : CodePoint → Bool, inName (.scalar '\n') = false ∧
      ∀ t : Text, t.head? ≠ some (.scalar '\'') → readName t =
        if (t.takeWhile inName).isEmpty then none
        else some (t.takeWhile inName, t.dropWhile inName) := by
    refine ⟨fun c => !(c = .scalar '=' || c = .scalar '#' || c.isBlank), by decide, fun t ht => ?_⟩
    rw [readName.eq_def]
    split
    · exact absurd rfl ht
    · dsimp only
      rw [List.span_eq_takeWhile_dropWhile]
      generalize t.takeWhile _ = name
      cases name <;> rfl
  rw [hUnquoted line hHead, hUnquoted _ (mt (head?_feed_eq_iff rest (by decide)).mp hHead),
    takeWhile_feed rest hEnd, dropWhile_feed rest hEnd]
  split <;> rfl

/-- Without quotes there always is a value, and it is on the line. -/
theorem readValue_feed (hLine : IsUnquoted line) (spaced : Bool) :
    ∃ value left, readValue spaced line = some (value, left) ∧
      readValue spaced (line ++ .scalar '\n' :: rest) =
        some (value, left ++ .scalar '\n' :: rest) := by
  have hHead := head?_ne_of_unquoted hLine
  have hUnquoted : ∀ t : Text, t.head? ≠ some (.scalar '\'') ∧ t.head? ≠ some (.scalar '"') →
      readValue spaced t = if spaced && t.head? = some (.scalar '#') then some ([], t)
        else some (Text.dropEndWhile CodePoint.isBlank (beforeComment (t.takeWhile (!endsLine ·))),
          t.dropWhile (!endsLine ·)) := by
    intro t ht
    rw [readValue.eq_def]
    split
    · exact absurd rfl ht.1
    · exact absurd rfl ht.2
    · rw [List.span_eq_takeWhile_dropWhile]
  have hFeed := hUnquoted (line ++ .scalar '\n' :: rest)
    ⟨mt (head?_feed_eq_iff rest (by decide)).mp hHead.1,
      mt (head?_feed_eq_iff rest (by decide)).mp hHead.2⟩
  simp only [takeWhile_feed rest (p := (!endsLine ·)) rfl,
    dropWhile_feed rest (p := (!endsLine ·)) rfl,
    head?_feed_eq_iff rest (c := .scalar '#') (by decide)] at hFeed
  rw [hUnquoted line hHead, hFeed]
  split <;> exact ⟨_, _, rfl, rfl⟩

/-- A line without quotes assigns a value or none, and never fails; the next line has
no part in it. -/
theorem readAssigned_feed (hLine : IsUnquoted line) :
    ∃ value? left, readAssigned line = .ok (value?, left) ∧
      readAssigned (line ++ .scalar '\n' :: rest) =
        .ok (value?, left ++ .scalar '\n' :: rest) := by
  have hKept := hLine.suffix (List.dropWhile_suffix CodePoint.isInnerBlank)
  rw [readAssigned, readAssigned, dropWhile_feed rest (by decide)]
  cases hStart : line.dropWhile CodePoint.isInnerBlank with
  | nil => exact ⟨none, [], rfl, rfl⟩
  | cons c more =>
      rw [hStart] at hKept
      by_cases hc : c = .scalar '='
      · subst hc
        have hValue := (hKept.suffix (List.suffix_cons _ more)).suffix
          (List.dropWhile_suffix CodePoint.isInnerBlank)
        obtain ⟨value, left, hRead, hFeed⟩ := readValue_feed rest hValue
          ((more.dropWhile CodePoint.isInnerBlank).length < more.length)
        refine ⟨some value, left, ?_, ?_⟩
        · simp only [hRead]
        · simp only [List.cons_append,
            dropWhile_feed rest (p := CodePoint.isInnerBlank) (by decide), List.length_append,
            Nat.add_lt_add_iff_right, hFeed]
      · refine ⟨none, c :: more, ?_, ?_⟩
        · split
          · next hEquals => exact absurd (List.cons.inj hEquals).1 hc
          · rfl
        · split
          · next hEquals => exact absurd (List.cons.inj hEquals).1 hc
          · rfl

/-- A line is read for what it sets by itself, and reading goes on behind its end. -/
theorem readLine_feed (hLine : IsUnquoted line) :
    readLine (line ++ .scalar '\n' :: rest) = ((readLine line).1, rest) := by
  have hStart := hLine.suffix (skipExport_suffix line)
  rw [readLine, skipExport_feed, readLine]
  generalize skipExport line = start at hStart
  have hName : (if (start ++ .scalar '\n' :: rest).head? = some (.scalar '#') then
        some ([], start ++ .scalar '\n' :: rest) else readName (start ++ .scalar '\n' :: rest)) =
      (if start.head? = some (.scalar '#') then some ([], start) else readName start).map
        fun found => (found.1, found.2 ++ .scalar '\n' :: rest) := by
    simp only [head?_feed_eq_iff rest (c := .scalar '#') (by decide), readName_feed rest hStart]
    split <;> rfl
  rw [hName]
  cases hFound : (if start.head? = some (.scalar '#') then some ([], start)
      else readName start) with
  | none =>
      dsimp only [Option.map_none]
      rw [skipLine_feed rest hStart]
  | some found =>
      obtain ⟨name, afterName⟩ := found
      have hAfter : IsUnquoted afterName := by
        split at hFound
        · cases hFound
          exact hStart
        · exact hStart.suffix (suffix_of_readName hFound)
      obtain ⟨value?, left, hAssigned, hFeed⟩ := readAssigned_feed rest hAfter
      have hLeft := hAfter.suffix (suffix_of_readAssigned hAssigned)
      simp only [Option.map_some, hAssigned, hFeed, skipLineEnd_append_feed rest hLeft,
        skipLine_feed rest hLeft]
      cases skipLineEnd left <;> rfl

/-- The bindings of a text whose first line opens no quotes. -/
theorem bindings_feed (hLine : IsUnquoted line) :
    bindings (line ++ .scalar '\n' :: rest) =
      (readLine (line.dropWhile CodePoint.isBlank)).1.toList ++ bindings rest := by
  rw [bindings_eq, List.dropWhile_append]
  cases hStart : line.dropWhile CodePoint.isBlank with
  | nil =>
      have hNone : (readLine []).1 = none := rfl
      have hFeed : (.scalar '\n' :: rest : Text).dropWhile CodePoint.isBlank =
          rest.dropWhile CodePoint.isBlank := List.dropWhile_cons_of_pos (by decide)
      rw [hNone, List.isEmpty_nil, if_pos rfl, hFeed, ← bindings_eq]
      rfl
  | cons first more =>
      have hKept := hLine.suffix (List.dropWhile_suffix CodePoint.isBlank)
      rw [hStart] at hKept
      have hRead := readLine_feed rest hKept
      rw [List.cons_append] at hRead
      rw [List.isEmpty_cons, if_neg Bool.false_ne_true, List.cons_append]
      dsimp only
      rw [hRead]

end

/-! ### Several lines -/

/-- Lines that open no quotes, each with a line feed at its end. -/
inductive UnquotedLines : Text → Prop where
  | nil : UnquotedLines []
  | line {line rest : Text} (hLine : IsUnquoted line) (hRest : UnquotedLines rest) :
      UnquotedLines (line ++ .scalar '\n' :: rest)

/-- A text without quotes and returns that ends in a line feed consists of whole
lines. -/
theorem unquotedLines_of_feed {t : Text}
    (h : ∀ c ∈ t, c ≠ .scalar '\'' ∧ c ≠ .scalar '"' ∧ c ≠ .scalar '\r')
    (hEnd : t = [] ∨ t.getLast? = some (.scalar '\n')) : UnquotedLines t := by
  induction t with
  | nil => exact .nil
  | cons c t ih =>
      have hTail : UnquotedLines t := by
        refine ih (fun d hd => h d (List.mem_cons_of_mem c hd)) ?_
        cases t with
        | nil => exact .inl rfl
        | cons d t => exact .inr (hEnd.resolve_left (List.cons_ne_nil _ _))
      by_cases hc : c = .scalar '\n'
      · subst hc
        exact @UnquotedLines.line [] t (fun d hd => absurd hd List.not_mem_nil) hTail
      · obtain ⟨hSingle, hDouble, hReturn⟩ := h c (List.mem_cons_self ..)
        have hOpen : endsLine c = false := by simp [endsLine, hc, hReturn]
        cases hTail with
        | nil =>
            rcases hEnd with hNil | hLast
            · cases hNil
            · exact absurd (Option.some.inj hLast) hc
        | @line line rest hLine hRest =>
            have hFirst : IsUnquoted (c :: line) :=
              List.forall_mem_cons.mpr ⟨⟨hOpen, hSingle, hDouble⟩, hLine⟩
            exact .line hFirst hRest

/-- After whole lines without quotes, reading starts afresh. -/
theorem UnquotedLines.bindings_append {front : Text} (h : UnquotedLines front) (back : Text) :
    bindings (front ++ back) = bindings front ++ bindings back := by
  induction h with
  | nil => rfl
  | @line line rest hLine _ ih =>
      rw [List.append_assoc, List.cons_append, bindings_feed _ hLine, ih, bindings_feed _ hLine,
        List.append_assoc]

/-- Lines without quotes, however broken, are read apart from what follows them:
the bindings of both in a row are those of the lines and then those of the rest.
The same holds in a file, where a byte order mark before the lines is no part of
them. -/
theorem bindings_append_of_unquoted {front : Text}
    (hFront : ∀ c ∈ front, c ≠ .scalar '\'' ∧ c ≠ .scalar '"' ∧ c ≠ .scalar '\r')
    (hEnd : front = [] ∨ front.getLast? = some (.scalar '\n')) (back : Text) :
    bindings (front ++ back) = bindings front ++ bindings back ∧
      ∀ whole : Text, (whole = .scalar '\ufeff' :: (front ++ back) ∨
          whole = front ++ back ∧ whole.head? ≠ some (.scalar '\ufeff')) →
        bindings (textOf whole) = bindings front ++ bindings (unifyLineEnds back) := by
  have hLines := unquotedLines_of_feed hFront hEnd
  refine ⟨hLines.bindings_append back, fun whole hWhole => ?_⟩
  have hText : textOf whole = unifyLineEnds (front ++ back) := by
    rcases hWhole with rfl | ⟨rfl, hMark⟩
    · rfl
    · rw [textOf.eq_def]
      split
      · next hEq => exact absurd (congrArg List.head? hEq) (by simpa using hMark)
      · rfl
  have hReturn : .scalar '\r' ∉ front := fun hMem => (hFront _ hMem).2.2 rfl
  rw [hText, unifyLineEnds_append hReturn, hLines.bindings_append]

/-- No name, a mark without a name, and text behind a name that has no value: three
lines are lost, and the quotes that the rest opens do not change that. -/
theorem bindings_append_of_unquoted_damaged :
    let front : Text := "=x\nexport \nA B\nC\nexport\n"
    let back : Text := "D='\nE=1\n'F\nG=2"
    bindings (front ++ back) = [⟨"C", none⟩, ⟨"export", none⟩, ⟨"G", some "2"⟩] := by
  intro front back
  have hFront : ∀ c ∈ front, c ≠ .scalar '\'' ∧ c ≠ .scalar '"' ∧ c ≠ .scalar '\r' := by decide
  have hLines : bindings front = [⟨"C", none⟩, ⟨"export", none⟩] := by decide +kernel
  have hRest : bindings back = [⟨"G", some "2"⟩] := by decide +kernel
  rw [(bindings_append_of_unquoted hFront (.inr (by decide)) back).1, hLines, hRest]
  rfl

end DemurrageToken.Settings
