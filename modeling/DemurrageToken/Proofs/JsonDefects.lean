import DemurrageToken.Proofs.JsonReading

/-! Defects of JSON text. What stands before a defect that the reader reports can
be completed to a text that is accepted, so no earlier place is to blame. Each
reading step passes this on: what it has read itself goes in front of what an
inner step has read, and a closing of its own behind the tail of that step. -/
namespace DemurrageToken.Json

open Grammar

/-- A text that begins an item. -/
def Completable {α : Type} (Item : Text → α → Prop) (t : Text) : Prop :=
  ∃ tail x, tail.SurrogateFree ∧ Item (t ++ tail) x

/-- A reading step that reports no defect but behind a text that begins an item. -/
def Blames {α : Type} (Item : Text → α → Prop) (one : Text → Except Stop (α × Text)) : Prop :=
  ∀ t kind rest, one t = .error (.defect kind rest) →
    ∃ front, t = front ++ rest ∧ Completable Item front

namespace Completable

variable {α β : Type} {Part : Text → α → Prop} {Item : Text → β → Prop}

theorem of_item {t : Text} {y : β} (h : Item t y) : Completable Item t :=
  ⟨[], y, .nil, by rwa [List.append_nil]⟩

/-- What begins a part of an item begins the item, with what stands before the
part. Something is left to close the item with. -/
theorem within {t : Text} (h : Completable Part t) (before : Text) (closing : List Char)
    (hItem : ∀ u x, Part u x → ∃ y, Item (before ++ (u ++ Text.ofChars closing)) y) :
    Completable Item (before ++ t) := by
  obtain ⟨tail, x, hTail, hPart⟩ := h
  obtain ⟨y, hy⟩ := hItem _ _ hPart
  refine ⟨tail ++ Text.ofChars closing, y,
    Text.SurrogateFree.append_iff.mpr ⟨hTail, .ofChars _⟩, ?_⟩
  simpa only [List.append_assoc] using hy

/-- The same for the last part of an item. -/
theorem behind {t : Text} (h : Completable Part t) (before : Text)
    (hItem : ∀ u x, Part u x → ∃ y, Item (before ++ u) y) : Completable Item (before ++ t) := by
  refine h.within before [] fun u x hPart => ?_
  obtain ⟨y, hy⟩ := hItem u x hPart
  exact ⟨y, by simpa [Text.ofChars] using hy⟩

end Completable

/-! ### Strings -/

/-- A defect inside a string stands at the opening quote, or behind a text that
begins a spelling. -/
theorem completable_of_pieces {opening t rest : Text} {kind : Defect}
    (h : pieces opening t = .error (.defect kind rest)) :
    rest = opening ∨ ∃ front, t = front ++ rest ∧ Completable Spelling front := by
  have hNewline : ('n', '\n') ∈ shortEscapes := by decide
  have hBackslash : Completable Spelling [.scalar '\\'] :=
    ⟨"n", _, .ofChars _, .short hNewline .nil⟩
  fun_induction pieces opening t with
  | case1 | case3 =>
      cases h
      exact .inl rfl
  | case2 => cases h
  | case4 c₁ c₂ c₃ c₄ next after n hUnit _ ih =>
      obtain ⟨n₁, n₂, n₃, n₄, h₁, h₂, h₃, h₄, -⟩ := unit?_eq_some_iff.mp hUnit
      refine (ih (Except.map_eq_error_iff.mp h)).imp id ?_
      rintro ⟨front, hFront, hCompletable⟩
      refine ⟨[.scalar '\\', .scalar 'u', c₁, c₂, c₃, c₄] ++ front, by rw [hFront]; rfl, ?_⟩
      exact hCompletable.behind _ fun u ps hSpelling => ⟨_, .unit h₁ h₂ h₃ h₄ hSpelling⟩
  | case5 | case6 =>
      cases h
      exact .inr ⟨_, rfl, hBackslash⟩
  | case7 letter more _ plain hShort _ ih =>
      obtain ⟨char, rfl, hEscape⟩ := shortEscape?_eq_some_iff.mp hShort
      refine (ih (Except.map_eq_error_iff.mp h)).imp id ?_
      rintro ⟨front, rfl, hCompletable⟩
      refine ⟨[.scalar '\\', .scalar char] ++ front, rfl, ?_⟩
      exact hCompletable.behind _ fun u ps hSpelling => ⟨_, .short hEscape hSpelling⟩
  | case8 | case9 =>
      cases h
      exact .inr ⟨[], rfl, .of_item .nil⟩
  | case10 c more hQuote hPlain hControl ih =>
      refine (ih (Except.map_eq_error_iff.mp h)).imp id ?_
      rintro ⟨front, rfl, hCompletable⟩
      refine ⟨[c] ++ front, rfl, hCompletable.behind _ fun u ps hSpelling => ?_⟩
      exact ⟨_, .plain (Nat.not_lt.mp hControl) hQuote hPlain hSpelling⟩

/-- What has been read of a broken string can be completed to a string. -/
theorem completable_of_readString {inner rest : Text} {kind : Defect}
    (h : readString inner = .error (.defect kind rest)) :
    ∃ front, .scalar '"' :: inner = front ++ rest ∧ Completable Quoted front := by
  rcases completable_of_pieces (Except.map_eq_error_iff.mp h) with rfl | ⟨front, rfl, hFront⟩
  · exact ⟨[], rfl, "\"\"", [], .ofChars _, .mk .nil .nil⟩
  · refine ⟨[.scalar '"'] ++ front, rfl, hFront.within _ ['"'] fun u ps hSpelling => ?_⟩
    exact ⟨_, .mk hSpelling (joined_joinPieces ps)⟩

/-! ### Scalars -/

/-- A number or a word is blamed as a whole. -/
theorem rest_of_readScalar {t rest : Text} {kind : Defect}
    (h : readScalar t = .error (.defect kind rest)) : rest = t := by
  unfold readScalar at h
  split at h
  · cases h
  · rw [readNumber_eq] at h
    unfold readUnsigned at h
    split at h
    · cases h
      rfl
    · dsimp only at h
      split_ifs at h
      cases h

theorem completable_value_nil : Completable Value [] :=
  ⟨"null", .null, .ofChars _, .word .null⟩

/-! ### Series -/

theorem Grammar.Blank.nil : Blank [] := fun _ h => absurd h List.not_mem_nil

section

variable {α : Type} {Item : Text → α → Prop} {one : Text → Except Stop (α × Text)}

theorem Completable.series {t : Text} (h : Completable Item t) : Completable (Series Item) t := by
  refine h.behind [] fun u x hItem => ⟨[x], ?_⟩
  have hLast := Series.last hItem .nil
  rwa [List.append_nil] at hLast

/-- A series is blamed where an item is, or behind an item that neither a comma
nor the closing follows. -/
theorem blames_readSeries (hOne : Sound Item one) (hBlames : Blames Item one)
    (hItem : Completable Item []) (closing : CodePoint) (exhausted : Defect) (bound : Nat) :
    Blames (Series Item) (readSeries closing exhausted one bound) := by
  induction bound with
  | zero =>
      intro t kind rest h
      cases h
      exact ⟨[], rfl, hItem.series⟩
  | succ bound ih =>
      intro t kind rest h
      rw [readSeries, Except.bind_eq_error_iff] at h
      rcases h with hFirst | ⟨⟨x, after⟩, hFirst, h⟩
      · obtain ⟨front, hFront, hCompletable⟩ := hBlames _ _ _ hFirst
        exact ⟨front, hFront, hCompletable.series⟩
      · obtain ⟨u, rfl, hu⟩ := hOne _ _ _ hFirst
        obtain ⟨b, hAfter, hBlank⟩ := skipBlank_split after
        have hSeries : Completable (Series Item) (u ++ b) := .of_item (.last hu hBlank)
        dsimp only at h
        split at h
        · next hSkip =>
            cases h
            exact ⟨u ++ b, by rw [List.append_assoc, ← hSkip, ← hAfter], hSeries⟩
        · next c more hSkip =>
            rw [hSkip] at hAfter
            split_ifs at h with hClosing hComma
            · subst hComma
              rcases Except.bind_eq_error_iff.mp h with hRest | ⟨_, _, hEq⟩
              · obtain ⟨front, hFront, hCompletable⟩ := ih _ _ _ hRest
                obtain ⟨b', hMore, hBlank'⟩ := skipBlank_split more
                refine ⟨u ++ b ++ .scalar ',' :: b' ++ front, ?_, ?_⟩
                · rw [hAfter, hMore, hFront]
                  simp only [List.append_assoc, List.cons_append]
                · refine hCompletable.behind _ fun v xs hRest => ⟨x :: xs, ?_⟩
                  simpa using Series.more hu hBlank hBlank' hRest
              · cases hEq
            · cases h
              exact ⟨u ++ b, by rw [hAfter, List.append_assoc], hSeries⟩

end

/-! ### Members -/

/-- Behind a name anything may be the value. -/
theorem Completable.member {k : Text} (h : Completable Quoted k) :
    Completable (Member Value) k := by
  refine h.within [] ":null".toList fun u name hName => ⟨(name, .null), ?_⟩
  have hMember := Member.mk hName .nil .nil (Value.word .null)
  rwa [List.append_nil] at hMember

theorem completable_of_readName {t rest : Text} {kind : Defect}
    (h : readName t = .error (.defect kind rest)) :
    ∃ front, t = front ++ rest ∧ Completable (Member Value) front := by
  unfold readName at h
  split at h
  · next inner =>
      rcases Except.bind_eq_error_iff.mp h with hString | ⟨⟨name, after⟩, hString, h⟩
      · obtain ⟨front, hFront, hCompletable⟩ := completable_of_readString hString
        exact ⟨front, hFront, hCompletable.member⟩
      · obtain ⟨k, hk, hName⟩ := quoted_of_readString hString
        obtain ⟨b, hAfter, hBlank⟩ := skipBlank_split after
        dsimp only at h
        split at h
        · cases h
        · cases h
          refine ⟨k ++ b, by rw [hk, List.append_assoc, ← hAfter], ":null", (name, .null),
            .ofChars _, ?_⟩
          exact .mk hName hBlank .nil (.word .null)
  · cases h
    exact ⟨[], rfl, Completable.member ⟨"\"\"", [], .ofChars _, .mk .nil .nil⟩⟩

/-- A member is blamed at the right place if values are. -/
theorem blames_readMember {item : Text → Except Stop (Json × Text)} (hItem : Blames Value item) :
    Blames (Member Value) (readMember item) := by
  intro t kind rest h
  rw [readMember, Except.bind_eq_error_iff] at h
  rcases h with hName | ⟨⟨name, afterName⟩, hName, h⟩
  · exact completable_of_readName hName
  · rcases Except.bind_eq_error_iff.mp h with hValue | ⟨_, _, hEq⟩
    · obtain ⟨front, rfl, hCompletable⟩ := hItem _ _ _ hValue
      obtain ⟨k, b, b', rfl, hQuoted, hb, hb'⟩ := quoted_of_readName hName
      refine ⟨k ++ b ++ .scalar ':' :: b' ++ front, by simp, ?_⟩
      refine hCompletable.behind _ fun u v hValue => ⟨(name, v), ?_⟩
      simpa using Member.mk hQuoted hb hb' hValue
    · cases hEq

/-! ### Values -/

/-- What has been read of a broken array can be completed, if the same is true of the
values in it. -/
theorem completable_of_elements {depth : Nat} (hDepth : Blames Value (readValue depth))
    {inner rest : Text} {kind : Defect}
    (h : readValue (depth + 1) (.scalar '[' :: inner) = .error (.defect kind rest)) :
    ∃ front, .scalar '[' :: inner = front ++ rest ∧ Completable Value front := by
  obtain ⟨b, hInner, hBlank⟩ := skipBlank_split inner
  by_cases hEmpty : (skipBlank inner).head? = some (.scalar ']')
  · obtain ⟨more, hMore⟩ := List.head?_eq_some_iff.mp hEmpty
    rw [readValue, hMore] at h
    cases h
  · rw [readValue_bracket hEmpty rfl, Except.map_eq_error_iff] at h
    obtain ⟨front, hFront, hCompletable⟩ := blames_readSeries (value_of_readValue depth) hDepth
      completable_value_nil _ _ _ _ _ _ h
    refine ⟨.scalar '[' :: b ++ front, by rw [hInner, hFront]; simp, ?_⟩
    refine hCompletable.within _ [']'] fun u vs hSeries => ⟨.array vs, ?_⟩
    simpa [Text.ofChars] using Value.array hBlank hSeries

/-- What has been read of a broken object can be completed, if the same is true of
the values in it. -/
theorem completable_of_members {depth : Nat} (hDepth : Blames Value (readValue depth))
    {inner rest : Text} {kind : Defect}
    (h : readValue (depth + 1) (.scalar '\x7b' :: inner) = .error (.defect kind rest)) :
    ∃ front, .scalar '\x7b' :: inner = front ++ rest ∧ Completable Value front := by
  obtain ⟨b, hInner, hBlank⟩ := skipBlank_split inner
  by_cases hEmpty : (skipBlank inner).head? = some (.scalar '\x7d')
  · obtain ⟨more, hMore⟩ := List.head?_eq_some_iff.mp hEmpty
    rw [readValue, hMore] at h
    cases h
  · have hMember : Completable (Member Value) [] :=
      Completable.member ⟨"\"\"", [], .ofChars _, .mk .nil .nil⟩
    rw [readValue_brace hEmpty rfl, Except.map_eq_error_iff] at h
    obtain ⟨front, hFront, hCompletable⟩ := blames_readSeries
      (member_of_readMember (value_of_readValue depth)) (blames_readMember hDepth) hMember
      _ _ _ _ _ _ h
    refine ⟨.scalar '\x7b' :: b ++ front, by rw [hInner, hFront]; simp, ?_⟩
    refine hCompletable.within _ ['\x7d'] fun u ms hSeries => ⟨.object (Entries.ofList ms), ?_⟩
    simpa [Text.ofChars] using Value.object hBlank hSeries (merged_iff.mpr rfl)

/-- A value is blamed at the right place: what stands before the defect begins a
value. -/
theorem blames_readValue (depth : Nat) : Blames Value (readValue depth) := by
  induction depth with
  | zero =>
      intro t kind rest h
      cases h
      exact ⟨[], rfl, completable_value_nil⟩
  | succ depth ih =>
      intro t kind rest h
      by_cases hQuote : t.head? = some (.scalar '"')
      · obtain ⟨inner, rfl⟩ := List.head?_eq_some_iff.mp hQuote
        obtain ⟨front, hFront, hCompletable⟩ :=
          completable_of_readString (Except.map_eq_error_iff.mp h)
        exact ⟨front, hFront, hCompletable.behind [] fun k s hQuoted => ⟨_, .string hQuoted⟩⟩
      by_cases hBracket : t.head? = some (.scalar '[')
      · obtain ⟨inner, rfl⟩ := List.head?_eq_some_iff.mp hBracket
        exact completable_of_elements ih h
      by_cases hBrace : t.head? = some (.scalar '\x7b')
      · obtain ⟨inner, rfl⟩ := List.head?_eq_some_iff.mp hBrace
        exact completable_of_members ih h
      rw [readValue_scalar hQuote hBracket hBrace] at h
      exact ⟨[], (rest_of_readScalar h).symm, completable_value_nil⟩

/-! ### Documents -/

/-- What stands before the defect of a whole text begins a document. -/
theorem completable_of_readAll {t rest : Text} {kind : Defect}
    (h : readAll t = .error (.defect kind rest)) :
    ∃ front, t = front ++ rest ∧ Completable Document front := by
  unfold readAll at h
  split at h
  · cases h
    refine ⟨[], rfl, completable_value_nil.behind [] fun u v hValue => ⟨v, ?_⟩⟩
    simpa using Document.mk .nil hValue .nil
  · obtain ⟨b, ht, hBlank⟩ := skipBlank_split t
    rcases Except.bind_eq_error_iff.mp h with hRead | ⟨⟨v, after⟩, hRead, h⟩
    · obtain ⟨front, hFront, hCompletable⟩ := blames_readValue _ _ _ _ hRead
      refine ⟨b ++ front, by rw [List.append_assoc, ← hFront, ← ht], ?_⟩
      refine hCompletable.behind _ fun u v hValue => ⟨v, ?_⟩
      simpa using Document.mk hBlank hValue .nil
    · obtain ⟨u, hu, hValue⟩ := value_of_readValue _ _ _ _ hRead
      obtain ⟨b', hAfter, hBlank'⟩ := skipBlank_split after
      dsimp only at h
      split at h
      · cases h
      · next hSkip =>
          cases h
          refine ⟨b ++ u ++ b', ?_, .of_item (.mk hBlank hValue hBlank')⟩
          rw [List.append_assoc, ← hAfter, List.append_assoc, ← hu, ← ht]

/-- The column of a position in a text: from the last line feed before it, or
from the beginning of the text. -/
inductive Column (t : Text) (position : Nat) : Nat → Prop where
  | first (h : .scalar '\n' ∉ t.take position) : Column t position (position + 1)
  | behind {before line : Text} (h : t.take position = before ++ .scalar '\n' :: line)
      (hLast : .scalar '\n' ∉ line) : Column t position (position - before.length)

/-- A fault lies inside the text or at its end. Lines are counted from one, and
what stands before the fault can be completed to a text that is accepted. -/
structure FirstDefect (t : Text) (line column position : Nat) : Prop where
  inside : position ≤ t.length
  line : line = 1 + (t.take position).count (.scalar '\n')
  column : Column t position column
  completable : Completable Document (t.take position)

/-- The column counts the code points back to the last line feed. -/
theorem column_takeWhile {t : Text} {position : Nat} (h : position ≤ t.length) :
    Column t position
      (((t.take position).reverse.takeWhile (· ≠ .scalar '\n')).length + 1) := by
  have hLength : (t.take position).length = position := List.length_take_of_le h
  by_cases hFeed : .scalar '\n' ∈ (t.take position).reverse
  · obtain ⟨line, before, hSplit, hLine⟩ := List.eq_append_cons_of_mem hFeed
    have hTake : t.take position = before.reverse ++ .scalar '\n' :: line.reverse := by
      rw [← List.reverse_reverse (t.take position), hSplit]
      simp
    have hPlain : ∀ c ∈ line, decide (c ≠ .scalar '\n') = true := by
      intro c hc
      exact decide_eq_true fun hEq => hLine (hEq ▸ hc)
    have hColumn : position - before.reverse.length = line.length + 1 := by
      rw [← hLength, hTake]
      simp only [List.length_append, List.length_reverse, List.length_cons]
      omega
    rw [hSplit, List.takeWhile_append_of_pos hPlain, List.takeWhile_cons_of_neg (by simp),
      List.append_nil, ← hColumn]
    exact .behind hTake (by rwa [List.mem_reverse])
  · have hPlain : ∀ c ∈ (t.take position).reverse, decide (c ≠ .scalar '\n') = true := by
      intro c hc
      exact decide_eq_true fun hEq => hFeed (hEq ▸ hc)
    rw [List.takeWhile_eq_self_iff.mpr hPlain, List.length_reverse, hLength]
    exact .first (by rwa [← List.mem_reverse])

/-- A report gives the place of the first defect, by line, column and position. -/
theorem firstDefect_of_read {t : Text} {kind : Defect} {line column position : Nat}
    (h : read t = .error (.malformed kind line column position)) :
    FirstDefect t line column position := by
  obtain ⟨stop, hStop, hLocate⟩ := Except.mapError_eq_error_iff.mp h
  cases stop with
  | digits count => cases hLocate
  | defect kind' rest =>
      obtain ⟨front, ht, hCompletable⟩ := completable_of_readAll hStop
      have hPosition : t.length - rest.length = front.length := by
        rw [ht, List.length_append, Nat.add_sub_cancel]
      have hInside : front.length ≤ t.length := by
        rw [ht, List.length_append]
        exact Nat.le_add_right ..
      obtain ⟨⟩ : Fault.malformed kind line column position = _ := hLocate.symm
      rw [hPosition]
      refine ⟨hInside, Nat.add_comm .., column_takeWhile hInside, ?_⟩
      rwa [ht, List.take_left]

end DemurrageToken.Json
