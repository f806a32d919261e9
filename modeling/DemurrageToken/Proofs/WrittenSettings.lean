import DemurrageToken.Proofs.SettingsReferences

/-! Settings files as they are written, line by line, and what loading makes of
them. A quoted value may hold quotes, backslashes and line ends. -/
namespace DemurrageToken.Settings

/-! ### The written form -/

/-- A name that can stand at the start of a line without quotes. -/
structure IsName (name : Text) : Prop where
  nonempty : name ≠ []
  characters : ∀ c ∈ name, c ≠ .scalar '=' ∧ c ≠ .scalar '#' ∧ c ≠ .scalar '\x00' ∧
    c.isBlank = false
  unquoted : name.head? ≠ some (.scalar '\'')

/-- A text as it stands between single quotes. -/
def escaped (t : Text) : Text :=
  t.flatMap fun c => if c = .scalar '\\' ∨ c = .scalar '\'' then [.scalar '\\', c] else [c]

/-- A value is written plainly, or in single quotes with any line ends inside. No
reference is opened in it. -/
inductive WrittenValue : Text → Text → Prop where
  | plain {v : Text} (hLine : ∀ c ∈ v, endsLine c = false)
      (hPlain : ∀ c ∈ v, c ≠ .scalar '#' ∧ c ≠ .scalar '\x00')
      (hReference : ¬Text.ofString "$\x7b" <:+: v)
      (hQuote : v.head? ≠ some (.scalar '\'') ∧ v.head? ≠ some (.scalar '"'))
      (hEnds : ∀ c, v.head? = some c ∨ v.getLast? = some c → c.isBlank = false) : WrittenValue v v
  | quoted {v : Text} (hPlain : ∀ c ∈ v, c ≠ .scalar '\r' ∧ c ≠ .scalar '\x00')
      (hReference : ¬Text.ofString "$\x7b" <:+: v) :
      WrittenValue (.scalar '\'' :: (escaped v ++ [.scalar '\''])) v

/-- A line without its end, and the name and value that it sets, if any. -/
inductive WrittenLine : Text → Option (Text × Text) → Prop where
  | blank {t : Text} (h : ∀ c ∈ t, c.isInnerBlank = true) : WrittenLine t none
  | comment {t : Text} (h : ∀ c ∈ t, endsLine c = false) : WrittenLine (.scalar '#' :: t) none
  | assignment {mark name written value : Text}
      (hMark : mark = [] ∨ mark = Text.ofString "export ") (hName : IsName name)
      (hValue : WrittenValue written value) :
      WrittenLine (mark ++ (name ++ .scalar '=' :: written)) (some (name, value))

/-- The marks that end a line, told from the text behind them: a carriage return
before a line feed makes one mark with it. -/
inductive LineEnd : Text → Text → Prop where
  | feed {rest : Text} : LineEnd [.scalar '\n'] rest
  | both {rest : Text} : LineEnd [.scalar '\r', .scalar '\n'] rest
  | carriage {rest : Text} (h : rest.head? ≠ some (.scalar '\n')) : LineEnd [.scalar '\r'] rest

/-- Lines one after another, with the names and values that they set. -/
inductive WrittenFile : Text → List (Text × Text) → Prop where
  | nil : WrittenFile [] []
  | line {t mark rest : Text} {assigned? : Option (Text × Text)} {entries : List (Text × Text)}
      (hLine : WrittenLine t assigned?) (hEnd : LineEnd mark rest)
      (hRest : WrittenFile rest entries) :
      WrittenFile (t ++ (mark ++ rest)) (assigned?.toList ++ entries)

/-! ### Line ends -/

theorem unifyLineEnds_cons {c : CodePoint} (h : c ≠ .scalar '\r') (t : Text) :
    unifyLineEnds (c :: t) = c :: unifyLineEnds t := by
  cases t with
  | nil => simp [unifyLineEnds, h]
  | cons d rest => rw [unifyLineEnds, if_neg h]

/-- Line ends are the same before and after text without returns. -/
theorem unifyLineEnds_append {t : Text} (h : .scalar '\r' ∉ t) (rest : Text) :
    unifyLineEnds (t ++ rest) = t ++ unifyLineEnds rest := by
  induction t with
  | nil => rfl
  | cons c t ih =>
      rw [List.mem_cons, not_or] at h
      rw [List.cons_append, unifyLineEnds_cons (Ne.symm h.1), ih h.2, List.cons_append]

/-- Whatever ends a line, reading finds a line feed there. -/
theorem LineEnd.unifyLineEnds_append {mark rest : Text} (h : LineEnd mark rest) :
    unifyLineEnds (mark ++ rest) = .scalar '\n' :: unifyLineEnds rest := by
  have hFeed := @unifyLineEnds_cons (.scalar '\n') (by decide) rest
  cases h with
  | feed => exact hFeed
  | both =>
      change unifyLineEnds (.scalar '\r' :: .scalar '\n' :: rest) = _
      rw [unifyLineEnds, if_pos rfl, if_pos rfl, hFeed]
  | carriage hNext =>
      change unifyLineEnds (.scalar '\r' :: rest) = _
      cases rest with
      | nil => rfl
      | cons d rest =>
          have hd : d ≠ .scalar '\n' := by simpa using hNext
          rw [unifyLineEnds, if_pos rfl, if_neg hd]

/-! ### Quotes -/

theorem escaped_cons_of_special {c : CodePoint} (h : c = .scalar '\\' ∨ c = .scalar '\'')
    (v : Text) : escaped (c :: v) = .scalar '\\' :: c :: escaped v := by
  rw [escaped, List.flatMap_cons, if_pos h]
  rfl

theorem escaped_cons_of_plain {c : CodePoint} (h : ¬(c = .scalar '\\' ∨ c = .scalar '\''))
    (v : Text) : escaped (c :: v) = c :: escaped v := by
  rw [escaped, List.flatMap_cons, if_neg h]
  rfl

/-- The quotes of a written value end where they were put, whatever follows. -/
theorem quotedPart_escaped (v rest : Text) :
    quotedPart (.scalar '\'') (escaped v ++ .scalar '\'' :: rest) = some (escaped v, rest) := by
  induction v with
  | nil =>
      change quotedPart (.scalar '\'') (.scalar '\'' :: rest) = some ([], rest)
      rw [quotedPart.eq_def]
      exact if_pos rfl
  | cons c v ih =>
      by_cases hSpecial : c = .scalar '\\' ∨ c = .scalar '\''
      · rw [escaped_cons_of_special hSpecial, List.cons_append, List.cons_append, quotedPart.eq_def]
        simp [ih]
      · obtain ⟨hBackslash, hQuote⟩ := not_or.mp hSpecial
        rw [escaped_cons_of_plain hSpecial, List.cons_append, quotedPart.eq_def]
        simp [ih, hBackslash, hQuote]

theorem unescape_cons_of_plain {escapes : Escapes} {c : CodePoint} (h : c ≠ .scalar '\\')
    (t : Text) : unescape escapes (c :: t) = c :: unescape escapes t := by
  cases t with
  | nil => rfl
  | cons d rest => rw [unescape, if_neg h]

/-- Each backslash that was put in goes, and no other. -/
theorem unescape_escaped (v : Text) : unescape singleQuoteEscapes (escaped v) = v := by
  induction v with
  | nil => rfl
  | cons c v ih =>
      by_cases hSpecial : c = .scalar '\\' ∨ c = .scalar '\''
      · rw [escaped_cons_of_special hSpecial, unescape, if_pos rfl]
        -- Both escapes stand for the character after the backslash.
        rcases hSpecial with rfl | rfl <;> exact congrArg _ ih
      · rw [escaped_cons_of_plain hSpecial, unescape_cons_of_plain (not_or.mp hSpecial).1, ih]

/-! ### Values -/

/-- Without a number sign there is no comment to cut off. -/
theorem beforeComment_eq_self {v : Text} (h : .scalar '#' ∉ v) : beforeComment v = v := by
  induction v with
  | nil => rfl
  | cons c v ih =>
      rw [List.mem_cons, not_or] at h
      have hHead : (v.dropWhile CodePoint.isBlank).head? ≠ some (.scalar '#') := by
        intro hHead
        exact h.2 (List.dropWhile_subset _ (List.mem_of_mem_head? hHead))
      rw [beforeComment, if_neg (by simp [hHead]), ih h.2]

theorem isBlank_of_isInnerBlank {c : CodePoint} (h : c.isInnerBlank = true) : c.isBlank = true := by
  simp only [CodePoint.isInnerBlank, Bool.and_eq_true] at h
  exact h.1.1

theorem isInnerBlank_of_not_isBlank {c : CodePoint} (h : c.isBlank = false) :
    c.isInnerBlank = false := by
  rw [CodePoint.isInnerBlank, h, Bool.false_and, Bool.false_and]

/-- A plain value is read as it is, up to the end of its line. -/
theorem readValue_of_plain {v : Text} (hLine : ∀ c ∈ v, endsLine c = false)
    (hComment : .scalar '#' ∉ v)
    (hQuote : v.head? ≠ some (.scalar '\'') ∧ v.head? ≠ some (.scalar '"'))
    (hEnd : ∀ c, v.getLast? = some c → c.isBlank = false) (rest : Text) :
    readValue false (v ++ .scalar '\n' :: rest) = some (v, .scalar '\n' :: rest) := by
  have hSpan : (v ++ .scalar '\n' :: rest).span (!endsLine ·) = (v, .scalar '\n' :: rest) :=
    Text.span_eq_iff.mpr ⟨rfl, fun c hc => by rw [hLine c hc]; rfl, by rintro c ⟨⟩; rfl⟩
  have hHead : ∀ q, q ≠ .scalar '\n' → v.head? ≠ some q →
      ∀ more, v ++ .scalar '\n' :: rest ≠ q :: more := by
    intro q hq hv more hMore
    cases v with
    | nil => exact hq (List.cons.inj hMore).1.symm
    | cons c v => exact hv (congrArg some (List.cons.inj hMore).1)
  rw [readValue.eq_def]
  split
  · next more hMore => exact absurd hMore (hHead _ (by decide) hQuote.1 more)
  · next more hMore => exact absurd hMore (hHead _ (by decide) hQuote.2 more)
  · simp only [Bool.false_and, Bool.false_eq_true, if_false, hSpan,
      beforeComment_eq_self hComment, Text.dropEndWhile_eq_self hEnd]

/-- A written value is read to its end and no further. -/
theorem readValue_of_written {written value : Text} (h : WrittenValue written value)
    (rest : Text) :
    readValue false (written ++ .scalar '\n' :: rest) = some (value, .scalar '\n' :: rest) := by
  cases h with
  | plain hLine hPlain _ hQuote hEnds =>
      exact readValue_of_plain hLine (fun hMem => (hPlain _ hMem).1 rfl) hQuote
        (fun c hc => hEnds c (.inr hc)) rest
  | quoted =>
      rw [List.cons_append, List.append_assoc, List.singleton_append, readValue,
        quotedPart_escaped]
      simp only [Option.map_some, unescape_escaped]

/-- A written value begins with no white space. -/
theorem WrittenValue.head_append {written value : Text} (h : WrittenValue written value)
    (rest : Text) {c : CodePoint} (hc : (written ++ .scalar '\n' :: rest).head? = some c) :
    c.isInnerBlank = false := by
  cases h with
  | plain _ _ _ _ hEnds =>
      cases written with
      | nil =>
          cases hc
          rfl
      | cons d written => exact isInnerBlank_of_not_isBlank (hEnds c (.inl hc))
  | quoted =>
      cases hc
      decide

/-- A written value is read back behind its equals sign. -/
theorem readAssigned_of_written {written value : Text} (h : WrittenValue written value)
    (rest : Text) :
    readAssigned (.scalar '=' :: (written ++ .scalar '\n' :: rest)) =
      .ok (some value, .scalar '\n' :: rest) := by
  have hEquals : (.scalar '=' :: (written ++ .scalar '\n' :: rest) : Text).dropWhile
      CodePoint.isInnerBlank = .scalar '=' :: (written ++ .scalar '\n' :: rest) :=
    Text.dropWhile_eq_self (by rintro c ⟨⟩; decide)
  have hStart : (written ++ .scalar '\n' :: rest).dropWhile CodePoint.isInnerBlank =
      written ++ .scalar '\n' :: rest :=
    Text.dropWhile_eq_self fun c => h.head_append rest
  simp only [readAssigned, hEquals, hStart, Nat.lt_irrefl, decide_false, readValue_of_written h]

/-! ### Names -/

/-- A name that begins with the letters of the mark is not taken for it. -/
theorem skipExport_of_name {name : Text} (hName : IsName name) (rest : Text) :
    skipExport (name ++ .scalar '=' :: rest) = name ++ .scalar '=' :: rest := by
  rw [skipExport.eq_def]
  split
  · next c more hDrop =>
      rw [Text.dropStart?_eq_some_iff] at hDrop
      -- What follows the letters belongs to the name, or is the sign after it.
      have hc : c.isInnerBlank = false := by
        rcases List.append_eq_append_iff.mp hDrop with ⟨left, hLetters, hRest⟩ | ⟨left, rfl, hRest⟩
        · cases left with
          | nil =>
              obtain rfl := (List.cons.inj hRest).1
              decide
          | cons d left =>
              obtain rfl := (List.cons.inj hRest).1
              have hEquals : .scalar '=' ∈ Text.ofString "export" := by simp [hLetters]
              exact absurd hEquals (by decide)
        · cases left with
          | nil =>
              obtain rfl := (List.cons.inj hRest).1
              decide
          | cons d left =>
              obtain rfl := (List.cons.inj hRest).1
              exact isInnerBlank_of_not_isBlank (hName.characters c (by simp)).2.2.2
      rw [if_neg (by simp [hc])]
  · rfl

/-- The mark in front of a name is dropped. -/
theorem skipExport_of_marked {name : Text} (hName : IsName name) (rest : Text) :
    skipExport (Text.ofString "export " ++ (name ++ rest)) = name ++ rest := by
  have hDrop : Text.dropStart? "export" (Text.ofString "export " ++ (name ++ rest)) =
      some (.scalar ' ' :: (name ++ rest)) := rfl
  obtain ⟨c, more, rfl⟩ := List.exists_cons_of_ne_nil hName.nonempty
  have hFirst := (hName.characters c (List.mem_cons_self ..)).2.2.2
  rw [skipExport, hDrop]
  simp only
  rw [if_pos (by decide), Text.dropWhile_eq_self]
  rintro d ⟨⟩
  exact isInnerBlank_of_not_isBlank hFirst

/-- A name is read up to its equals sign. -/
theorem readName_of_written {name : Text} (hName : IsName name) (rest : Text) :
    readName (name ++ .scalar '=' :: rest) = some (name, .scalar '=' :: rest) := by
  obtain ⟨first, more, rfl⟩ := List.exists_cons_of_ne_nil hName.nonempty
  have hSpan : (first :: more ++ .scalar '=' :: rest).span
      (fun c => !(c = .scalar '=' || c = .scalar '#' || c.isBlank)) =
        (first :: more, .scalar '=' :: rest) := by
    refine Text.span_eq_iff.mpr ⟨rfl, fun c hc => ?_, by rintro c ⟨⟩; rfl⟩
    obtain ⟨hEquals, hComment, -, hBlank⟩ := hName.characters c hc
    simp [hEquals, hComment, hBlank]
  rw [readName.eq_def]
  split
  · next left hQuote =>
      exact absurd (congrArg List.head? hQuote) (fun h => hName.unquoted h)
  · simp only [hSpan]

/-! ### Lines -/

theorem skipLineEnd_feed (rest : Text) : skipLineEnd (.scalar '\n' :: rest) = some rest := by
  have hFeed : (.scalar '\n' :: rest : Text).dropWhile CodePoint.isInnerBlank =
      .scalar '\n' :: rest := Text.dropWhile_eq_self (by rintro c ⟨⟩; decide)
  rw [skipLineEnd, hFeed]
  rfl

/-- A line that assigns a value binds the name to it. -/
theorem readLine_of_assignment {mark name written value : Text}
    (hMark : mark = [] ∨ mark = Text.ofString "export ") (hName : IsName name)
    (hValue : WrittenValue written value) (rest : Text) :
    readLine (mark ++ (name ++ .scalar '=' :: written) ++ .scalar '\n' :: rest) =
      (some ⟨name, some value⟩, rest) := by
  have hStart : skipExport (mark ++ (name ++ .scalar '=' :: written) ++ .scalar '\n' :: rest) =
      name ++ .scalar '=' :: (written ++ .scalar '\n' :: rest) := by
    rcases hMark with rfl | rfl
    · rw [List.nil_append, List.append_assoc, List.cons_append, skipExport_of_name hName]
    · rw [List.append_assoc, List.append_assoc, List.cons_append, skipExport_of_marked hName]
  have hHead : (name ++ .scalar '=' :: (written ++ .scalar '\n' :: rest)).head? ≠
      some (.scalar '#') := by
    obtain ⟨first, more, rfl⟩ := List.exists_cons_of_ne_nil hName.nonempty
    intro hComment
    exact (hName.characters first (List.mem_cons_self ..)).2.1 (Option.some.inj hComment)
  simp only [readLine, hStart, hHead, if_false, readName_of_written hName,
    readAssigned_of_written hValue, skipLineEnd_feed, hName.nonempty]

/-- A comment binds nothing. -/
theorem readLine_of_comment {t : Text} (h : ∀ c ∈ t, endsLine c = false) (rest : Text) :
    readLine (.scalar '#' :: t ++ .scalar '\n' :: rest) = (none, rest) := by
  have hStart : skipExport (.scalar '#' :: t ++ .scalar '\n' :: rest) =
      .scalar '#' :: t ++ .scalar '\n' :: rest := rfl
  have hKept : (.scalar '#' :: t ++ .scalar '\n' :: rest : Text).dropWhile
      CodePoint.isInnerBlank = .scalar '#' :: t ++ .scalar '\n' :: rest :=
    Text.dropWhile_eq_self (by rintro c ⟨⟩; decide)
  have hAssigned : readAssigned (.scalar '#' :: t ++ .scalar '\n' :: rest) =
      .ok (none, .scalar '#' :: t ++ .scalar '\n' :: rest) := by
    rw [readAssigned, hKept]
    rfl
  have hLine : (t ++ .scalar '\n' :: rest).dropWhile (!endsLine ·) = .scalar '\n' :: rest := by
    rw [List.dropWhile_append_of_pos fun c hc => by simp [h c hc]]
    rfl
  have hEnd : skipLineEnd (.scalar '#' :: t ++ .scalar '\n' :: rest) = some rest := by
    rw [skipLineEnd, hKept]
    simp only [List.cons_append, if_true, hLine, List.drop_succ_cons, List.drop_zero]
  have hHead : (.scalar '#' :: t ++ .scalar '\n' :: rest).head? = some (.scalar '#') := rfl
  simp only [readLine, hStart, hHead, if_true, hAssigned, hEnd]

/-- A text that begins with no white space is read line by line. -/
theorem bindingsWithin_succ {first : CodePoint} {t : Text} (hFirst : first.isBlank = false)
    (bound : Nat) :
    bindingsWithin (bound + 1) (first :: t) =
      (readLine (first :: t)).1.toList ++ bindingsWithin bound (readLine (first :: t)).2 := by
  have hKept : (first :: t).dropWhile CodePoint.isBlank = first :: t :=
    Text.dropWhile_eq_self (by rintro c ⟨⟩; exact hFirst)
  rw [bindingsWithin, hKept]

theorem bindingsWithin_of_blank {blanks : Text} (h : ∀ c ∈ blanks, c.isBlank = true) (rest : Text)
    (bound : Nat) : bindingsWithin bound (blanks ++ rest) = bindingsWithin bound rest := by
  cases bound with
  | zero => rfl
  | succ bound => rw [bindingsWithin, bindingsWithin, List.dropWhile_append_of_pos h]

/-- One line is read for what it sets, and reading goes on behind its end. -/
theorem WrittenLine.bindingsWithin_append {t : Text} {assigned? : Option (Text × Text)}
    (h : WrittenLine t assigned?) (rest : Text) {bound : Nat} (hBound : t.length < bound) :
    ∃ fewer, bound ≤ fewer + (t.length + 1) ∧ bindingsWithin bound (t ++ .scalar '\n' :: rest) =
      (assigned?.map fun entry => ⟨entry.1, some entry.2⟩).toList ++ bindingsWithin fewer rest := by
  cases h with
  | blank hBlank =>
      refine ⟨bound, by omega, ?_⟩
      have hBlanks : ∀ c ∈ t ++ [.scalar '\n'], c.isBlank = true := by
        intro c hc
        rcases List.mem_append.mp hc with hc | hc
        · exact isBlank_of_isInnerBlank (hBlank c hc)
        · rw [List.mem_singleton.mp hc]
          decide
      rw [List.append_cons, bindingsWithin_of_blank hBlanks]
      rfl
  | @comment t hComment =>
      obtain ⟨bound, rfl⟩ := Nat.exists_eq_succ_of_ne_zero (Nat.ne_zero_of_lt hBound)
      refine ⟨bound, by omega, ?_⟩
      rw [List.cons_append, bindingsWithin_succ (by decide), ← List.cons_append,
        readLine_of_comment hComment]
      rfl
  | @assignment mark name written value hMark hName hValue =>
      obtain ⟨bound, rfl⟩ := Nat.exists_eq_succ_of_ne_zero (Nat.ne_zero_of_lt hBound)
      refine ⟨bound, by omega, ?_⟩
      have hRead := readLine_of_assignment hMark hName hValue rest
      have hFirst : ∃ first more, mark ++ (name ++ .scalar '=' :: written) = first :: more ∧
          first.isBlank = false := by
        obtain ⟨first, more, rfl⟩ := List.exists_cons_of_ne_nil hName.nonempty
        rcases hMark with rfl | rfl
        · exact ⟨_, _, rfl, (hName.characters first (List.mem_cons_self ..)).2.2.2⟩
        · exact ⟨_, _, rfl, by decide⟩
      obtain ⟨first, more, hText, hBlank⟩ := hFirst
      rw [hText] at hRead ⊢
      rw [List.cons_append, bindingsWithin_succ hBlank, ← List.cons_append, hRead]
      rfl

/-! ### Files -/

/-- No value is written with a return in it. -/
theorem WrittenValue.return_notMem {written value : Text} (h : WrittenValue written value) :
    .scalar '\r' ∉ written := by
  cases h with
  | plain hLine =>
      intro hMem
      exact absurd (hLine _ hMem) (by decide)
  | quoted hPlain =>
      intro hMem
      have hEscaped : .scalar '\r' ∈ escaped value := by simpa using hMem
      obtain ⟨c, hc, hMem⟩ := List.mem_flatMap.mp hEscaped
      split at hMem
      · simp only [List.mem_cons, List.not_mem_nil, or_false] at hMem
        rcases hMem with hMem | rfl
        · cases hMem
        · exact (hPlain _ hc).1 rfl
      · obtain rfl := List.mem_singleton.mp hMem
        exact (hPlain _ hc).1 rfl

/-- No line is written with a return in it. -/
theorem WrittenLine.return_notMem {t : Text} {assigned? : Option (Text × Text)}
    (h : WrittenLine t assigned?) : .scalar '\r' ∉ t := by
  cases h with
  | blank hBlank =>
      intro hMem
      exact absurd (hBlank _ hMem) (by decide)
  | comment hComment =>
      intro hMem
      rcases List.mem_cons.mp hMem with hMem | hMem
      · cases hMem
      · exact absurd (hComment _ hMem) (by decide)
  | assignment hMark hName hValue =>
      simp only [List.mem_append, List.mem_cons, not_or]
      refine ⟨?_, fun hMem => ?_, by decide, hValue.return_notMem⟩
      · rcases hMark with rfl | rfl <;> decide
      · exact absurd (hName.characters _ hMem).2.2.2 (by decide)

/-- A written file is read for what its lines set, in order. -/
theorem WrittenFile.bindingsWithin_eq {t : Text} {entries : List (Text × Text)}
    (h : WrittenFile t entries) {bound : Nat} (hBound : (unifyLineEnds t).length ≤ bound) :
    bindingsWithin bound (unifyLineEnds t) =
      entries.map fun entry => ⟨entry.1, some entry.2⟩ := by
  induction h generalizing bound with
  | nil => cases bound <;> rfl
  | @line t mark rest assigned? entries hLine hEnd _ ih =>
      rw [unifyLineEnds_append hLine.return_notMem, hEnd.unifyLineEnds_append] at hBound ⊢
      simp only [List.length_append, List.length_cons] at hBound
      obtain ⟨fewer, hFewer, hRead⟩ :=
        @hLine.bindingsWithin_append _ _ (unifyLineEnds rest) bound (by omega)
      rw [hRead, ih (by omega), List.map_append]
      cases assigned? <;> rfl

theorem Leads.isPrefix {t left : Text} {r : Reference} (h : Leads t r left) :
    Text.ofString "$\x7b" <+: t := by
  cases h <;> exact ⟨_, rfl⟩

/-- A text without an opened reference expands to itself. -/
theorem expand_of_plain {environment : Environment} {bound : Entries (Option Text)} {t : Text}
    (h : ¬Text.ofString "$\x7b" <:+: t) : expand environment bound t = t := by
  induction t with
  | nil => rfl
  | cons c t ih =>
      have hPlain : ∀ r left, ¬Leads (c :: t) r left :=
        fun r left hLeads => h hLeads.isPrefix.isInfix
      rw [expand_of_not_leads hPlain,
        ih fun hInfix => h (hInfix.trans (List.suffix_cons c t).isInfix)]

/-- What holds of the names and values of a written file. -/
theorem WrittenFile.entry_spec {t : Text} {entries : List (Text × Text)}
    (h : WrittenFile t entries) : ∀ entry ∈ entries, IsName entry.1 ∧
      .scalar '\x00' ∉ entry.2 ∧ ¬Text.ofString "$\x7b" <:+: entry.2 := by
  induction h with
  | nil => exact fun entry hEntry => absurd hEntry List.not_mem_nil
  | line hLine _ _ ih =>
      intro entry hEntry
      rcases List.mem_append.mp hEntry with hEntry | hEntry
      · cases hLine with
        | blank | comment => cases hEntry
        | assignment _ hName hValue =>
            obtain rfl := List.mem_singleton.mp hEntry
            refine ⟨hName, ?_⟩
            cases hValue with
            | plain _ hPlain hReference =>
                exact ⟨fun hMem => (hPlain _ hMem).2 rfl, hReference⟩
            | quoted hPlain hReference =>
                exact ⟨fun hMem => (hPlain _ hMem).2 rfl, hReference⟩
      · exact ih entry hEntry

/-- Of values without references, the last one written for a name counts. -/
theorem fileValue?_of_plain {environment : Environment} {entries : List (Text × Text)}
    (h : ∀ entry ∈ entries, ¬Text.ofString "$\x7b" <:+: entry.2) (name : Text) :
    fileValue? environment (entries.map fun entry => ⟨entry.1, some entry.2⟩) name =
      entries.reverse.lookup name := by
  induction entries using List.reverseRecOn with
  | nil => rfl
  | append_singleton entries entry ih =>
      rw [List.map_append, List.map_singleton, fileValue?_concat, List.reverse_append,
        List.reverse_singleton, List.singleton_append, Entries.lookup_cons,
        ih fun other hOther => h other (List.mem_append_left _ hOther), Option.map_some,
        expand_of_plain (h entry (by simp))]
      simp only [eq_comm]

/-- A written file sets each name that the environment lacks to the value that
is written last for it, and sets nothing else. -/
theorem load_written {environment : Environment} (hEnabled : isDisabled environment = false)
    {content : Bytes} {t : Text} (hDecode : Utf8.decode content = .ok t)
    (hMark : t.head? ≠ some (.scalar '\ufeff')) {entries : List (Text × Text)}
    (hWritten : WrittenFile t entries) :
    ∃ loaded, load environment (.file content) = (loaded, none) ∧
      ∀ name, loaded.lookup name = (environment.lookup name).or (entries.reverse.lookup name) := by
  have hText : textOf t = unifyLineEnds t := by
    rw [textOf.eq_def]
    split
    · next rest => exact absurd rfl hMark
    · rfl
  have hBindings : bindings (textOf t) = entries.map fun entry => ⟨entry.1, some entry.2⟩ := by
    rw [hText, bindings, hWritten.bindingsWithin_eq (Nat.le_refl _)]
  have hValue := fun name => @fileValue?_of_plain environment entries
    (fun entry hEntry => (hWritten.entry_spec entry hEntry).2.2) name
  rw [load_file hEnabled hDecode, hBindings]
  have hAccepted : ∀ name value, (name, some value) ∈
      resolve environment (entries.map fun entry => ⟨entry.1, some entry.2⟩) →
      .scalar '=' ∉ name ∧ .scalar '\x00' ∉ name ∧ .scalar '\x00' ∉ value := by
    intro name value hMem
    have hLast : entries.reverse.lookup name = some value := by
      rw [← hValue, ← lookup_resolve, mem_resolve hMem]
      rfl
    obtain ⟨front, back, hSplit, -⟩ := List.lookup_eq_some_iff.mp hLast
    have hEntry : (name, value) ∈ entries := List.mem_reverse.mp (by simp [hSplit])
    obtain ⟨hName, hZero, -⟩ := hWritten.entry_spec _ hEntry
    exact ⟨fun hEquals => (hName.characters _ hEquals).1 rfl,
      fun hZero => (hName.characters _ hZero).2.2.1 rfl, hZero⟩
  obtain ⟨loaded, hLoaded⟩ := @setVariables_eq_ok environment environment _ hAccepted
  refine ⟨loaded, hLoaded, fun name => ?_⟩
  rw [lookup_of_load hLoaded, resolved?, hValue]

/-- The names include `export`; the quoted values end in a backslash, and hold
quotes, a comment sign and a line feed. -/
theorem load_written_export :
    let t : Text := "#=\n \t\r\nexport export='a\\\\'\nH=1\rB=\nB='it\\'s\n#\"'\nexport C=x y'z\n"
    ∃ loaded, load [("H", "h")] (.file (t.flatMap Utf8.encodeCodePoint)) = (loaded, none) ∧
      loaded.lookup (Text.ofString "export") = some (Text.ofString "a\\") ∧
      loaded.lookup (Text.ofString "H") = some (Text.ofString "h") ∧
      loaded.lookup (Text.ofString "B") = some (Text.ofString "it's\n#\"") ∧
      loaded.lookup (Text.ofString "C") = some (Text.ofString "x y'z") := by
  intro t
  have hName : ∀ name ∈ [Text.ofString "export", "H", "B", "C"], IsName name := by
    intro name hName
    simp only [List.mem_cons, List.not_mem_nil, or_false] at hName
    rcases hName with rfl | rfl | rfl | rfl <;> exact ⟨by decide, by decide, by decide⟩
  have hPlain : ∀ v ∈ [Text.ofString "1", "", "x y'z"], WrittenValue v v := by
    intro v hv
    simp only [List.mem_cons, List.not_mem_nil, or_false] at hv
    rcases hv with rfl | rfl | rfl <;>
      refine .plain (by decide) (by decide) (by decide) (by decide) ?_ <;>
      rintro c (hc | hc) <;> cases hc <;> decide
  have hQuoted : ∀ v ∈ [Text.ofString "a\\", "it's\n#\""],
      WrittenValue (.scalar '\'' :: (escaped v ++ [.scalar '\''])) v := by
    intro v hv
    simp only [List.mem_cons, List.not_mem_nil, or_false] at hv
    rcases hv with rfl | rfl <;> exact .quoted (by decide) (by decide +kernel)
  obtain ⟨_, hWritten, rfl⟩ : ∃ u, WrittenFile u [("export", "a\\"), ("H", "1"), ("B", ""),
      ("B", "it's\n#\""), ("C", "x y'z")] ∧ u = t :=
    ⟨_, .line (@WrittenLine.comment "=" (by decide)) .feed <|
      .line (@WrittenLine.blank " \t" (by decide)) .both <|
      .line (.assignment (.inr rfl) (hName "export" (by decide)) (hQuoted _ (by decide))) .feed <|
      .line (.assignment (.inl rfl) (hName "H" (by decide)) (hPlain _ (by decide)))
        (.carriage (by decide)) <|
      .line (.assignment (.inl rfl) (hName "B" (by decide)) (hPlain _ (by decide))) .feed <|
      .line (.assignment (.inl rfl) (hName "B" (by decide)) (hQuoted _ (by decide))) .feed <|
      .line (.assignment (.inr rfl) (hName "C" (by decide)) (hPlain _ (by decide))) .feed .nil,
      by decide⟩
  have hDecode : Utf8.decode (t.flatMap Utf8.encodeCodePoint) = .ok t :=
    Utf8.decode_eq_ok_iff.mpr ⟨by decide, rfl⟩
  obtain ⟨loaded, hLoad, hLookup⟩ :=
    @load_written [("H", "h")] (by decide) _ _ hDecode (by decide) _ hWritten
  exact ⟨loaded, hLoad, (hLookup _).trans (by decide), (hLookup _).trans (by decide),
    (hLookup _).trans (by decide), (hLookup _).trans (by decide)⟩

/-- With a carriage return inside, a line that starts as a comment is two lines,
and the second sets a variable. -/
theorem load_comment_return :
    let t : Text := "#\rA=1\n"
    (∃ comment : Text, t = .scalar '#' :: (comment ++ [.scalar '\n']) ∧ .scalar '\n' ∉ comment) ∧
      load [] (.file (t.flatMap Utf8.encodeCodePoint)) =
        (([("A", "1")] : Environment), none) := by
  intro t
  have hDecode : Utf8.decode (t.flatMap Utf8.encodeCodePoint) = .ok t :=
    Utf8.decode_eq_ok_iff.mpr ⟨by decide, rfl⟩
  have hBindings : bindings (textOf t) = [⟨"A", some "1"⟩] := by decide
  refine ⟨⟨"\rA=1", by decide, by decide⟩, ?_⟩
  rw [load_file (by decide) hDecode, hBindings]
  decide

end DemurrageToken.Settings
