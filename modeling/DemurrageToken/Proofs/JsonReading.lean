import DemurrageToken.Proofs.JsonScalars

/-! The reader accepts exactly the texts that the grammar derives, with the
same value. Both directions go by induction on the bound of the depth; the
completeness direction compares it with the length of the text. -/
namespace DemurrageToken.Json

open Grammar

/-! ### First code points -/

/-- What the first code point of a value may be. -/
def valueStarts : Text := "\"[\x7b-0123456789ntfNI"

/-- None of them is a blank, a closing bracket or a byte order mark. -/
theorem valueStarts_spec : ∀ c ∈ valueStarts, isBlank c = false ∧ c ≠ .scalar ']' ∧
    c ≠ .scalar '\x7d' ∧ c ≠ .scalar '\ufeff' := by
  decide

/-- A number without a sign may begin with any digit. -/
theorem digit_mem_valueStarts {d : Char} (h : d.isDigit = true) : .scalar d ∈ valueStarts := by
  have hCases : ∀ n : Fin 58, 48 ≤ n.val → CodePoint.ofNat n.val ∈ valueStarts := by decide
  have hRange : 48 ≤ d.toNat ∧ d.toNat ≤ 57 := Char.isDigit_iff_toNat.mp h
  have hMem : CodePoint.ofNat (CodePoint.scalar d).val ∈ valueStarts :=
    hCases ⟨d.toNat, by omega⟩ hRange.1
  rwa [CodePoint.ofNat_val] at hMem

/-- Every item begins like a value. -/
def Opens {α : Type} (Item : Text → α → Prop) : Prop :=
  ∀ t x, Item t x → ∃ c more, t = c :: more ∧ c ∈ valueStarts

/-- Blanks in front of an item are skipped up to the item and no further. -/
theorem Opens.skipBlank_append {α : Type} {Item : Text → α → Prop} (hOpens : Opens Item)
    {b : Text} (hb : Blank b) {t : Text} {x : α} (h : Item t x) (rest : Text) :
    skipBlank (b ++ (t ++ rest)) = t ++ rest := by
  obtain ⟨c, more, rfl, hc⟩ := hOpens t x h
  exact Json.skipBlank_append hb (valueStarts_spec c hc).1 _

/-- No item is empty, so a list of items is no longer than its text. -/
theorem Opens.length_pos {α : Type} {Item : Text → α → Prop} (hOpens : Opens Item) {t : Text}
    {x : α} (h : Item t x) : 0 < t.length := by
  obtain ⟨c, more, rfl, -⟩ := hOpens t x h
  exact Nat.succ_pos _

/-- A member begins with the quotation mark of its name, whatever its value is. -/
theorem Grammar.Member.opens (Item : Text → Json → Prop) : Opens (Member Item) := by
  rintro t m ⟨⟨-, -⟩, -, -, -⟩
  exact ⟨_, _, rfl, by decide⟩

/-- Every value begins like one. -/
theorem Grammar.Value.opens : Opens Value := by
  intro t v h
  cases h with
  | word h => cases h <;> exact ⟨_, _, rfl, by decide⟩
  | number h =>
      obtain ⟨d, hDigit, negative, more, rfl⟩ := h.head
      cases negative with
      | true => exact ⟨_, _, rfl, by decide⟩
      | false => exact ⟨_, _, rfl, digit_mem_valueStarts hDigit⟩
  | string h =>
      cases h
      exact ⟨_, _, rfl, by decide⟩
  | _ => exact ⟨_, _, rfl, by decide⟩

/-! ### Series -/

/-- What `readElements` and `readMembers` share: items with commas between
them, up to a closing code point. -/
def readSeries {α : Type} (closing : CodePoint) (exhausted : Defect)
    (one : Text → Except Stop (α × Text)) : Nat → Text → Except Stop (List α × Text)
  | 0, t => .error (.defect exhausted t)
  | bound + 1, t => do
    let (x, after) ← one t
    match skipBlank after with
    | [] => .error (.defect .comma [])
    | c :: more =>
      if c = closing then .ok ([x], more)
      else if c = .scalar ',' then do
        let (xs, left) ← readSeries closing exhausted one bound (skipBlank more)
        .ok (x :: xs, left)
      else .error (.defect .comma (c :: more))

/-- A name and its value, as `readMembers` reads them. -/
def readMember (item : Text → Except Stop (Json × Text)) (t : Text) :
    Except Stop ((Text × Json) × Text) := do
  let (name, afterName) ← readName t
  let (v, after) ← item afterName
  .ok ((name, v), after)

/-- The elements of an array are a series that a bracket closes. -/
theorem readElements_eq (item : Text → Except Stop (Json × Text)) (bound : Nat) (t : Text) :
    readElements item bound t = readSeries (.scalar ']') .value item bound t := by
  induction bound generalizing t with
  | zero => rfl
  | succ bound ih =>
      rw [readElements, readSeries]
      refine congrArg _ (funext fun found => ?_)
      obtain ⟨v, after⟩ := found
      dsimp only
      generalize skipBlank after = rest
      cases rest with
      | nil => rfl
      | cons c more =>
          by_cases hClosing : c = .scalar ']'
          · subst hClosing
            rfl
          · by_cases hComma : c = .scalar ','
            · subst hComma
              simp only [ih]
              rfl
            · simp only [if_neg hClosing, if_neg hComma]
              split
              · next hEq => cases hEq; exact (hClosing rfl).elim
              · next hEq => cases hEq; exact (hComma rfl).elim
              · rfl

/-- The members of an object are a series too, of names with their values. -/
theorem readMembers_eq (item : Text → Except Stop (Json × Text)) (bound : Nat) (t : Text) :
    readMembers item bound t = readSeries (.scalar '\x7d') .name (readMember item) bound t := by
  induction bound generalizing t with
  | zero => rfl
  | succ bound ih =>
      rw [readMembers, readSeries, readMember, bind_assoc]
      refine congrArg _ (funext fun found => ?_)
      obtain ⟨name, afterName⟩ := found
      dsimp only
      rw [bind_assoc]
      refine congrArg _ (funext fun found => ?_)
      obtain ⟨v, after⟩ := found
      dsimp only [Except.ok_bind]
      generalize skipBlank after = rest
      cases rest with
      | nil => rfl
      | cons c more =>
          by_cases hClosing : c = .scalar '\x7d'
          · subst hClosing
            rfl
          · by_cases hComma : c = .scalar ','
            · subst hComma
              simp only [ih]
              rfl
            · simp only [if_neg hClosing, if_neg hComma]
              split
              · next hEq => cases hEq; exact (hClosing rfl).elim
              · next hEq => cases hEq; exact (hComma rfl).elim
              · rfl

section

variable {α : Type} {Item : Text → α → Prop} {one : Text → Except Stop (α × Text)}

/-- An item leaves what follows it, if the item is not longer than `size`. -/
def Accepts (size : Nat) (Item : Text → α → Prop) (one : Text → Except Stop (α × Text)) : Prop :=
  ∀ t x, Item t x → t.length ≤ size → ∀ rest, Ends rest → one (t ++ rest) = .ok (x, rest)

/-- What is taken off the front of a text is an item. -/
def Sound (Item : Text → α → Prop) (one : Text → Except Stop (α × Text)) : Prop :=
  ∀ t x left, one t = .ok (x, left) → ∃ u, t = u ++ left ∧ Item u x

theorem Grammar.Series.opens (hOpens : Opens Item) : Opens (Series Item) := by
  rintro t xs (⟨hItem, -⟩ | ⟨hItem, -, -, -⟩)
  all_goals
    obtain ⟨c, more, rfl, hc⟩ := hOpens _ _ hItem
    exact ⟨c, _, rfl, hc⟩

/-- The length of a text bounds the number of items in it, which is why the reader
may take its length for a bound. -/
theorem Grammar.Series.length_le (hOpens : Opens Item) {t : Text} {xs : List α}
    (h : Series Item t xs) : xs.length ≤ t.length := by
  induction h with
  | last hItem _ =>
      have hPos := hOpens.length_pos hItem
      simp only [List.length_append, List.length_singleton]
      omega
  | more hItem _ _ _ ih =>
      simp only [List.length_append, List.length_cons]
      omega

/-- Completeness for a series: with room for all its items it is read up to the
closing mark. -/
theorem readSeries_of_series {size : Nat} (hOne : Accepts size Item one) (hOpens : Opens Item)
    {closing : CodePoint} (hClosing : closing ∈ Text.ofString "]\x7d") (exhausted : Defect)
    {t : Text} {xs : List α} (h : Series Item t xs) (hSize : t.length ≤ size) {bound : Nat}
    (hBound : xs.length ≤ bound) (rest : Text) :
    readSeries closing exhausted one bound (t ++ closing :: rest) = .ok (xs, rest) := by
  have hBrackets : ∀ c ∈ Text.ofString "]\x7d",
      isBlank c = false ∧ c ≠ .scalar ',' ∧ c ∈ Text.ofString " \t\n\r,]\x7d" := by decide
  obtain ⟨hNotBlank, hNotComma, hEnds⟩ := hBrackets closing hClosing
  induction h generalizing bound with
  | @last t b x hItem hBlank =>
      obtain ⟨bound, rfl⟩ := Nat.exists_eq_add_one_of_ne_zero (Nat.ne_of_gt hBound)
      have hRest : Ends (b ++ closing :: rest) := .of_blank_append hBlank (.of_mem hEnds rest)
      rw [List.length_append] at hSize
      rw [List.append_assoc, readSeries, hOne _ _ hItem (by omega) _ hRest, Except.ok_bind]
      simp only [skipBlank_append hBlank hNotBlank, if_true]
  | @more t b b' u x xs hItem hBefore hAfter hSeries ih =>
      obtain ⟨bound, rfl⟩ := Nat.exists_eq_add_one_of_ne_zero
        (Nat.ne_of_gt (Nat.lt_of_lt_of_le (Nat.succ_pos _) hBound))
      have hRest : Ends (b ++ .scalar ',' :: (b' ++ (u ++ closing :: rest))) :=
        .of_blank_append hBefore (.of_mem (by decide) _)
      have hSkip := (Series.opens hOpens).skipBlank_append hAfter hSeries (closing :: rest)
      simp only [List.length_append, List.length_cons] at hSize hBound
      have hTail := ih (by omega) (Nat.le_of_succ_le_succ hBound)
      simp only [List.append_assoc, List.cons_append]
      rw [readSeries, hOne _ _ hItem (by omega) _ hRest, Except.ok_bind]
      simp only [skipBlank_append hBefore (by decide : isBlank (.scalar ',') = false),
        if_neg (Ne.symm hNotComma), if_true, hSkip, hTail, Except.ok_bind]

/-- Soundness for a series: what was read in front of the closing mark is one. -/
theorem series_of_readSeries (hOne : Sound Item one) {closing : CodePoint} {exhausted : Defect}
    {bound : Nat} {t left : Text} {xs : List α}
    (h : readSeries closing exhausted one bound t = .ok (xs, left)) :
    ∃ u, t = u ++ closing :: left ∧ Series Item u xs := by
  induction bound generalizing t xs with
  | zero => cases h
  | succ bound ih =>
      rw [readSeries] at h
      obtain ⟨⟨x, after⟩, hFirst, h⟩ := Except.bind_eq_ok_iff.mp h
      obtain ⟨u, hu, hItem⟩ := hOne _ _ _ hFirst
      obtain ⟨b, hAfter, hBlank⟩ := skipBlank_split after
      dsimp only at h
      split at h
      · cases h
      · next c more hSkip =>
          rw [hSkip] at hAfter
          split_ifs at h with hClosing hComma
          · cases h
            subst hClosing
            exact ⟨u ++ b, by rw [hu, hAfter, List.append_assoc], .last hItem hBlank⟩
          · subst hComma
            obtain ⟨⟨xs', left'⟩, hRest, hEq⟩ := Except.bind_eq_ok_iff.mp h
            cases hEq
            obtain ⟨u', hu', hSeries⟩ := ih hRest
            obtain ⟨b', hMore, hBlank'⟩ := skipBlank_split more
            refine ⟨u ++ b ++ .scalar ',' :: (b' ++ u'), ?_, .more hItem hBlank hBlank' hSeries⟩
            rw [hu, hAfter, hMore, hu']
            simp only [List.append_assoc, List.cons_append]

end

/-! ### Members -/

/-- Completeness for a name: it is read with its colon and the blanks around that. -/
theorem readName_of_quoted {k name : Text} (h : Quoted k name) {b : Text} (hb : Blank b)
    (rest : Text) :
    readName (k ++ (b ++ .scalar ':' :: rest)) = .ok (name, skipBlank rest) := by
  obtain ⟨inner, hInner, hRead⟩ := readString_of_quoted h (b ++ .scalar ':' :: rest)
  rw [hInner, readName, hRead, Except.ok_bind]
  simp only [skipBlank_append hb (by decide : isBlank (.scalar ':') = false)]

/-- Soundness for a name: what has been read is a quoted string, with a colon between
blanks. -/
theorem quoted_of_readName {t left name : Text} (h : readName t = .ok (name, left)) :
    ∃ k b b', t = k ++ b ++ .scalar ':' :: (b' ++ left) ∧ Quoted k name ∧ Blank b ∧ Blank b' := by
  unfold readName at h
  split at h
  · next inner =>
      obtain ⟨⟨name', after⟩, hRead, h⟩ := Except.bind_eq_ok_iff.mp h
      obtain ⟨k, hk, hQuoted⟩ := quoted_of_readString hRead
      obtain ⟨b, hAfter, hb⟩ := skipBlank_split after
      dsimp only at h
      split at h
      · next more hSkip =>
          cases h
          rw [hSkip] at hAfter
          obtain ⟨b', hMore, hb'⟩ := skipBlank_split more
          exact ⟨k, b, b', by rw [hk, hAfter, ← hMore, List.append_assoc], hQuoted, hb, hb'⟩
      · cases h
  · cases h

section

variable {Item : Text → Json → Prop} {item : Text → Except Stop (Json × Text)}

/-- A member is read completely if values are. -/
theorem readMember_of_member {size : Nat} (hItem : Accepts size Item item) (hOpens : Opens Item) :
    Accepts size (Member Item) (readMember item) := by
  rintro t m ⟨hQuoted, hBefore, hAfter, hValue⟩ hSize rest hRest
  rename_i k b b' t name v
  have hSkip := hOpens.skipBlank_append hAfter hValue rest
  simp only [List.length_append, List.length_cons] at hSize
  simp only [List.append_assoc, List.cons_append]
  rw [readMember, readName_of_quoted hQuoted hBefore, hSkip, Except.ok_bind]
  dsimp only
  rw [hItem _ _ hValue (by omega) _ hRest]
  rfl

/-- What is read as a member is one, if the same is true of values. -/
theorem member_of_readMember (hItem : Sound Item item) :
    Sound (Member Item) (readMember item) := by
  intro t m left h
  obtain ⟨⟨name, afterName⟩, hName, h⟩ := Except.bind_eq_ok_iff.mp h
  obtain ⟨⟨v, after⟩, hValue, hEq⟩ := Except.bind_eq_ok_iff.mp h
  cases hEq
  obtain ⟨k, b, b', ht, hQuoted, hb, hb'⟩ := quoted_of_readName hName
  obtain ⟨u, hu, hItem⟩ := hItem _ _ _ hValue
  refine ⟨k ++ b ++ .scalar ':' :: (b' ++ u), ?_, .mk hQuoted hb hb' hItem⟩
  rw [ht, hu]
  simp only [List.append_assoc, List.cons_append]

end

/-! ### Values -/

/-- What a bracket opens is read as elements, unless it is closed at once. -/
theorem readValue_bracket {inner : Text} (hInner : inner.head? ≠ some (.scalar ']')) {rest : Text}
    (hSkip : skipBlank rest = inner) (depth : Nat) :
    readValue (depth + 1) (.scalar '[' :: rest) =
      (readSeries (.scalar ']') .value (readValue depth) (inner.length + 1) inner).map
        fun (vs, left) => (.array vs, left) := by
  rw [readValue, hSkip]
  split
  · exact (hInner rfl).elim
  · rw [readElements_eq]

/-- What a brace opens is read as members, unless it is closed at once. -/
theorem readValue_brace {inner : Text} (hInner : inner.head? ≠ some (.scalar '\x7d'))
    {rest : Text} (hSkip : skipBlank rest = inner) (depth : Nat) :
    readValue (depth + 1) (.scalar '\x7b' :: rest) =
      (readSeries (.scalar '\x7d') .name (readMember (readValue depth)) (inner.length + 1)
        inner).map fun (ms, left) => (.object (Entries.ofList ms), left) := by
  rw [readValue, hSkip]
  split
  · exact (hInner rfl).elim
  · rw [readMembers_eq]

/-- What opens neither a string nor anything with parts is left to the scalars. -/
theorem readValue_scalar {t : Text} (hQuote : t.head? ≠ some (.scalar '"'))
    (hBracket : t.head? ≠ some (.scalar '[')) (hBrace : t.head? ≠ some (.scalar '\x7b'))
    (depth : Nat) : readValue (depth + 1) t = readScalar t := by
  rw [readValue.eq_def]
  dsimp only
  split
  · exact (hQuote rfl).elim
  · exact (hBracket rfl).elim
  · exact (hBrace rfl).elim
  · rfl

/-- Completeness for an array that is not empty, from that for values of less depth. -/
theorem readValue_of_elements {depth : Nat} (hDepth : Accepts depth Value (readValue depth))
    {b u : Text} {vs : List Json} (hBlank : Blank b) (hElements : Series Value u vs)
    (hSize : u.length ≤ depth) (rest : Text) :
    readValue (depth + 1) (.scalar '[' :: (b ++ (u ++ .scalar ']' :: rest))) =
      .ok (.array vs, rest) := by
  have hOpens := Series.opens Value.opens
  have hSkip := hOpens.skipBlank_append hBlank hElements (.scalar ']' :: rest)
  have hInner : (u ++ .scalar ']' :: rest).head? ≠ some (.scalar ']') := by
    obtain ⟨c, more, rfl, hc⟩ := hOpens _ _ hElements
    simpa using (valueStarts_spec c hc).2.1
  have hLength := hElements.length_le Value.opens
  rw [readValue_bracket hInner hSkip, readSeries_of_series hDepth Value.opens (by decide) _
    hElements hSize (by rw [List.length_append]; omega)]
  rfl

/-- Completeness for an object that is not empty, from that for values of less depth. -/
theorem readValue_of_members {depth : Nat} (hDepth : Accepts depth Value (readValue depth))
    {b u : Text} {ms : List (Text × Json)} (hBlank : Blank b)
    (hMembers : Series (Member Value) u ms) (hSize : u.length ≤ depth) (rest : Text) :
    readValue (depth + 1) (.scalar '\x7b' :: (b ++ (u ++ .scalar '\x7d' :: rest))) =
      .ok (.object (Entries.ofList ms), rest) := by
  have hOpens := Series.opens (Member.opens Value)
  have hSkip := hOpens.skipBlank_append hBlank hMembers (.scalar '\x7d' :: rest)
  have hInner : (u ++ .scalar '\x7d' :: rest).head? ≠ some (.scalar '\x7d') := by
    obtain ⟨c, more, rfl, hc⟩ := hOpens _ _ hMembers
    simpa using (valueStarts_spec c hc).2.2.1
  have hLength := hMembers.length_le (Member.opens Value)
  rw [readValue_brace hInner hSkip, readSeries_of_series (readMember_of_member hDepth Value.opens)
    (Member.opens Value) (by decide) _ hMembers hSize (by rw [List.length_append]; omega)]
  rfl

/-- Completeness for values: a value no longer than the bound of the depth is read,
and what follows it is left. -/
theorem readValue_of_value (depth : Nat) : Accepts depth Value (readValue depth) := by
  induction depth with
  | zero =>
      intro t v h hSize
      have hPos := Value.opens.length_pos h
      omega
  | succ depth ih =>
      intro t v h hSize rest hRest
      cases h with
      | word h =>
          have hRead := readScalar_of_word h rest
          cases h <;> exact hRead
      | number h =>
          have hRead := readScalar_of_number h hRest
          obtain ⟨d, hDigit, negative, more, rfl⟩ := h.head
          cases negative with
          | true => exact hRead
          | false =>
              have hOther : ∀ c : Char, c.isDigit = false → CodePoint.scalar d ≠ .scalar c := by
                rintro c hc ⟨rfl⟩
                rw [hc] at hDigit
                cases hDigit
              rw [readValue_scalar (by simpa [sign] using hOther _ rfl)
                (by simpa [sign] using hOther _ rfl) (by simpa [sign] using hOther _ rfl), hRead]
      | string h =>
          obtain ⟨inner, hInner, hRead⟩ := readString_of_quoted h rest
          rw [hInner, readValue, hRead]
          rfl
      | @emptyArray b hBlank =>
          have hSkip : skipBlank (b ++ .scalar ']' :: rest) = .scalar ']' :: rest :=
            skipBlank_append hBlank (by decide) rest
          rw [List.cons_append, List.append_assoc, List.singleton_append, readValue, hSkip]
          rfl
      | array hBlank hElements =>
          simp only [List.length_append, List.length_cons] at hSize
          rw [List.cons_append, List.append_assoc, List.append_assoc]
          exact readValue_of_elements ih hBlank hElements (by omega) rest
      | @emptyObject b hBlank =>
          have hSkip : skipBlank (b ++ .scalar '\x7d' :: rest) = .scalar '\x7d' :: rest :=
            skipBlank_append hBlank (by decide) rest
          rw [List.cons_append, List.append_assoc, List.singleton_append, readValue, hSkip]
          rfl
      | object hBlank hMembers hMerged =>
          simp only [List.length_append, List.length_cons] at hSize
          rw [List.cons_append, List.append_assoc, List.append_assoc, merged_iff.mp hMerged]
          exact readValue_of_members ih hBlank hMembers (by omega) rest

/-- Soundness for arrays, from that for values of less depth. -/
theorem array_of_readValue {depth : Nat} (hDepth : Sound Value (readValue depth))
    {rest left : Text} {v : Json}
    (h : readValue (depth + 1) (.scalar '[' :: rest) = .ok (v, left)) :
    ∃ u, .scalar '[' :: rest = u ++ left ∧ Value u v := by
  obtain ⟨b, hRest, hBlank⟩ := skipBlank_split rest
  by_cases hEmpty : (skipBlank rest).head? = some (.scalar ']')
  · obtain ⟨more, hMore⟩ := List.head?_eq_some_iff.mp hEmpty
    rw [readValue, hMore] at h
    cases h
    exact ⟨_, by rw [hRest, hMore]; simp, .emptyArray hBlank⟩
  · rw [readValue_bracket hEmpty rfl] at h
    obtain ⟨⟨vs, left'⟩, hRead, hEq⟩ := Except.map_eq_ok_iff.mp h
    cases hEq
    obtain ⟨u, hu, hSeries⟩ := series_of_readSeries hDepth hRead
    exact ⟨_, by rw [hRest, hu]; simp, .array hBlank hSeries⟩

/-- Soundness for objects, from that for values of less depth. Of members with one
name the last value counts, at the place of the first. -/
theorem object_of_readValue {depth : Nat} (hDepth : Sound Value (readValue depth))
    {rest left : Text} {v : Json}
    (h : readValue (depth + 1) (.scalar '\x7b' :: rest) = .ok (v, left)) :
    ∃ u, .scalar '\x7b' :: rest = u ++ left ∧ Value u v := by
  obtain ⟨b, hRest, hBlank⟩ := skipBlank_split rest
  by_cases hEmpty : (skipBlank rest).head? = some (.scalar '\x7d')
  · obtain ⟨more, hMore⟩ := List.head?_eq_some_iff.mp hEmpty
    rw [readValue, hMore] at h
    cases h
    exact ⟨_, by rw [hRest, hMore]; simp, .emptyObject hBlank⟩
  · rw [readValue_brace hEmpty rfl] at h
    obtain ⟨⟨ms, left'⟩, hRead, hEq⟩ := Except.map_eq_ok_iff.mp h
    cases hEq
    obtain ⟨u, hu, hSeries⟩ := series_of_readSeries (member_of_readMember hDepth) hRead
    exact ⟨_, by rw [hRest, hu]; simp, .object hBlank hSeries (merged_iff.mpr rfl)⟩

/-- Soundness for values: what was taken off the front of a text is one. -/
theorem value_of_readValue (depth : Nat) : Sound Value (readValue depth) := by
  induction depth with
  | zero =>
      intro t v left h
      cases h
  | succ depth ih =>
      intro t v left h
      by_cases hQuote : t.head? = some (.scalar '"')
      · obtain ⟨rest, rfl⟩ := List.head?_eq_some_iff.mp hQuote
        obtain ⟨⟨s, left'⟩, hRead, hEq⟩ := Except.map_eq_ok_iff.mp h
        cases hEq
        obtain ⟨k, hk, hQuoted⟩ := quoted_of_readString hRead
        exact ⟨k, hk, .string hQuoted⟩
      by_cases hBracket : t.head? = some (.scalar '[')
      · obtain ⟨rest, rfl⟩ := List.head?_eq_some_iff.mp hBracket
        exact array_of_readValue ih h
      by_cases hBrace : t.head? = some (.scalar '\x7b')
      · obtain ⟨rest, rfl⟩ := List.head?_eq_some_iff.mp hBrace
        exact object_of_readValue ih h
      rw [readValue_scalar hQuote hBracket hBrace] at h
      obtain ⟨u, hu, hWord | hNumber⟩ := scalar_of_readScalar h
      · exact ⟨u, hu, .word hWord⟩
      · exact ⟨u, hu, .number hNumber⟩

/-! ### Documents -/

/-- Completeness for whole texts: blanks may stand around the value. -/
theorem readAll_of_document {t : Text} {v : Json} (h : Document t v) : readAll t = .ok v := by
  obtain ⟨hBefore, hValue, hAfter⟩ := h
  rename_i b u b'
  have hMark : (b ++ (u ++ b')).head? ≠ some (.scalar '\ufeff') := by
    cases b with
    | nil =>
        obtain ⟨c, more, rfl, hc⟩ := Value.opens _ _ hValue
        simpa using (valueStarts_spec c hc).2.2.2
    | cons c b =>
        have hBlanks : ∀ c ∈ Text.ofString " \t\n\r", c ≠ .scalar '\ufeff' := by decide
        simpa using hBlanks c (hBefore c (List.mem_cons_self ..))
  have hEnds : Ends b' := List.append_nil b' ▸ Ends.of_blank_append hAfter .nil
  have hSize : u.length ≤ (b ++ (u ++ b')).length + 1 := by
    simp only [List.length_append]
    omega
  rw [List.append_assoc, readAll, Value.opens.skipBlank_append hBefore hValue,
    readValue_of_value _ _ _ hValue hSize _ hEnds, Except.ok_bind]
  · dsimp only
    rw [skipBlank_of_blank hAfter]
  · intro rest hEq
    exact hMark (by rw [hEq]; rfl)

/-- Soundness for whole texts: nothing but blanks stands around the value that was
read. -/
theorem document_of_readAll {t : Text} {v : Json} (h : readAll t = .ok v) : Document t v := by
  unfold readAll at h
  split at h
  · cases h
  · obtain ⟨⟨v', after⟩, hRead, h⟩ := Except.bind_eq_ok_iff.mp h
    obtain ⟨b, ht, hBlank⟩ := skipBlank_split t
    obtain ⟨u, hu, hValue⟩ := value_of_readValue _ _ _ _ hRead
    obtain ⟨b', hAfter, hBlank'⟩ := skipBlank_split after
    dsimp only at h
    split at h
    · next hSkip =>
        cases h
        rw [hSkip, List.append_nil] at hAfter
        rw [ht, hu, ← List.append_assoc]
        exact .mk hBlank hValue (hAfter ▸ hBlank')
    · cases h

/-- The reader accepts the texts that the grammar derives, and gives the value
that is derived; so a text has one value at most. -/
theorem read_eq_ok_iff {t : Text} {v : Json} : read t = .ok v ↔ Document t v := by
  rw [read, Except.mapError_eq_ok_iff]
  exact ⟨document_of_readAll, readAll_of_document⟩

end DemurrageToken.Json
