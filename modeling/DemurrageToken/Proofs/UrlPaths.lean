import DemurrageToken.Proofs.UrlParts

/-! Paths of URLs for texts of any kind. Putting a URL together escapes what may
not stand in a part and resolves dot segments; what has been put together before
goes through both unchanged. So the path below a base is that of the base with
what is asked for behind it, as long as dot segments do not lead out of it. -/
namespace DemurrageToken.Url

/-! ### Dot segments -/

/-- Dot segments are resolved from the front, and what is kept is carried on. -/
theorem resolveSegments_append (kept front back : List Text) :
    resolveSegments kept (front ++ back) =
      resolveSegments (resolveSegments kept front).reverse back := by
  induction front generalizing kept with
  | nil => rw [List.nil_append, resolveSegments, List.reverse_reverse]
  | cons segment front ih =>
      rw [List.cons_append, resolveSegments, resolveSegments]
      split
      · exact ih kept
      split
      · exact ih _
      · exact ih _

/-- Segments whose dots drop no more than the segments before them, of which there
are some already. -/
def StaysBelow (depth : Nat) : List Text → Prop
  | [] => True
  | segment :: rest =>
    if segment = Text.ofString "." then StaysBelow depth rest
    else if segment = Text.ofString ".." then 0 < depth ∧ StaysBelow (depth - 1) rest
    else StaysBelow (depth + 1) rest

instance StaysBelow.decidable : (depth : Nat) → (segments : List Text) →
    Decidable (StaysBelow depth segments)
  | _, [] => isTrue trivial
  | depth, segment :: rest =>
    have := StaysBelow.decidable depth rest
    have := StaysBelow.decidable (depth - 1) rest
    have := StaysBelow.decidable (depth + 1) rest
    inferInstanceAs (Decidable (if segment = Text.ofString "." then StaysBelow depth rest
      else if segment = Text.ofString ".." then 0 < depth ∧ StaysBelow (depth - 1) rest
      else StaysBelow (depth + 1) rest))

/-- Segments that stay below some others remove none of those. -/
theorem StaysBelow.resolveSegments_eq {kept segments inner : List Text} (hKept : kept ≠ [])
    (h : StaysBelow inner.length segments) :
    ∃ rest, resolveSegments (inner ++ kept) segments = kept.reverse ++ rest := by
  induction segments generalizing inner with
  | nil => exact ⟨inner.reverse, by rw [resolveSegments, List.reverse_append]⟩
  | cons segment segments ih =>
      rw [StaysBelow] at h
      rw [resolveSegments]
      split_ifs at h ⊢ with hDot hDots hRoot
      · exact ih h
      · -- Something stays on the stack, so what `..` drops is not the empty first segment.
        cases inner with
        | nil => exact absurd h.1 (Nat.lt_irrefl 0)
        | cons first inner =>
            have hInner := (List.cons.inj hRoot).2
            exact absurd (List.append_eq_nil_iff.mp hInner).2 hKept
      · cases inner with
        | nil => exact absurd h.1 (Nat.lt_irrefl 0)
        | cons first inner => exact ih h.2
      · exact @ih (segment :: inner) h

/-- Escaping neither makes nor hides a dot segment. -/
theorem encode_eq_dots_iff {t : Text} :
    (Percent.encode keepsInPath t = Text.ofString "." ↔ t = Text.ofString ".") ∧
      (Percent.encode keepsInPath t = Text.ofString ".." ↔ t = Text.ofString "..") :=
  ⟨Percent.encode_eq_iff (by decide) (by decide), Percent.encode_eq_iff (by decide) (by decide)⟩

/-- Encoding segments makes no dot segment and hides none. -/
theorem staysBelow_map_encode {depth : Nat} {segments : List Text} :
    StaysBelow depth (segments.map (Percent.encode keepsInPath)) ↔ StaysBelow depth segments := by
  induction segments generalizing depth with
  | nil => rfl
  | cons segment segments ih =>
      simp only [List.map_cons, StaysBelow, encode_eq_dots_iff.1, encode_eq_dots_iff.2, ih]

/-! ### Escapes -/

theorem keepsInPath_escapeCharacters : ∀ c ∈ Percent.escapeCharacters, keepsInPath c = true := by
  decide

theorem keeps_encode {keeps : CodePoint → Bool}
    (hEscape : ∀ c ∈ Percent.escapeCharacters, keeps c = true) {t : Text} :
    ∀ c ∈ Percent.encode keeps t, keeps c = true := fun c hc =>
  (Percent.mem_encode hc).elim And.left (hEscape c)

theorem keepsInQuery_of_keepsInPath {c : CodePoint} (h : keepsInPath c = true) :
    keepsInQuery c = true := by
  simp only [keepsInPath, keepsInQuery, keepsExcept, Bool.and_eq_true, decide_eq_true_eq,
    Bool.not_eq_true', List.contains_eq_mem, decide_eq_false_iff_not] at h ⊢
  refine ⟨h.1, fun hMark => h.2 ?_⟩
  have hMarks : ∀ d ∈ Text.ofString " \"#<>", d ∈ Text.ofString " \"#<>?`\x7b\x7d" := by decide
  exact hMarks c hMark

/-- A part that can be encoded is encoded character by character. -/
theorem encodePart_eq_ok {keeps : CodePoint → Bool} {t encoded : Text}
    (h : encodePart keeps t = .ok encoded) : encoded = Percent.encode keeps t := by
  rw [encodePart] at h
  split at h
  · cases h
  · cases h
    rfl

/-- Slashes are kept, so a path is escaped segment by segment. -/
theorem splitOn_encode (path : Text) :
    (Percent.encode keepsInPath path).splitOn (.scalar '/') =
      (path.splitOn (.scalar '/')).map (Percent.encode keepsInPath) := by
  have hEscape : .scalar '/' ∉ Percent.escapeCharacters := by decide
  have hParts : ∀ part ∈ (path.splitOn (.scalar '/')).map (Percent.encode keepsInPath),
      .scalar '/' ∉ part := by
    intro part hPart hSlash
    obtain ⟨segment, hSegment, rfl⟩ := List.mem_map.mp hPart
    rcases Percent.mem_encode hSlash with ⟨-, hMem⟩ | hMem
    · exact Text.notMem_of_mem_splitOn hSegment hMem
    · exact hEscape hMem
  conv_lhs => rw [← Text.join_splitOn (.scalar '/') path]
  rw [Percent.encode_join (by decide), Text.splitOn_join _ hParts]
  exact fun hNil => List.splitOn_ne_nil _ _ (List.map_eq_nil_iff.mp hNil)

/-! ### Paths without dot segments -/

/-- Only segments without dots are kept. -/
theorem mem_resolveSegments {kept segments : List Text} {segment : Text}
    (h : segment ∈ resolveSegments kept segments) :
    segment ∈ kept ∨ segment ∈ segments ∧ Dotless segment := by
  induction segments generalizing kept with
  | nil =>
      rw [resolveSegments, List.mem_reverse] at h
      exact .inl h
  | cons first segments ih =>
      rw [resolveSegments] at h
      split_ifs at h with hDot hDots hRoot
      · exact (ih h).imp id (And.imp_left (List.mem_cons_of_mem _))
      · exact (ih h).imp id (And.imp_left (List.mem_cons_of_mem _))
      · exact (ih h).imp List.mem_of_mem_drop (And.imp_left (List.mem_cons_of_mem _))
      · rcases ih h with hHere | hLater
        · rcases List.mem_cons.mp hHere with rfl | hKept
          · exact .inr ⟨List.mem_cons_self .., hDot, hDots⟩
          · exact .inl hKept
        · exact .inr ⟨List.mem_cons_of_mem _ hLater.1, hLater.2⟩

/-- A path without dot segments. -/
def DotlessPath (path : Text) : Prop := ∀ segment ∈ path.splitOn (.scalar '/'), Dotless segment

instance (path : Text) : Decidable (DotlessPath path) :=
  inferInstanceAs (Decidable (∀ segment ∈ path.splitOn (.scalar '/'), Dotless segment))

/-- A path has no dot segments if neither of its halves has. -/
theorem dotlessPath_append_iff {front back : Text} :
    DotlessPath (front ++ .scalar '/' :: back) ↔ DotlessPath front ∧ DotlessPath back := by
  simp only [DotlessPath, List.splitOn_append_cons_self, List.forall_mem_append]

theorem dotlessPath_nil : DotlessPath [] := by decide

/-- Segments without dots make up a path without dot segments. -/
theorem dotlessPath_join {segments : List Text}
    (h : ∀ segment ∈ segments, .scalar '/' ∉ segment ∧ Dotless segment) :
    DotlessPath (Text.join [.scalar '/'] segments) := by
  cases segments with
  | nil =>
      exact dotlessPath_nil
  | cons first rest =>
      rw [DotlessPath, Text.splitOn_join (List.cons_ne_nil _ _) fun t ht => (h t ht).1]
      exact fun t ht => (h t ht).2

theorem dotlessPath_removeDots (path : Text) : DotlessPath (removeDots path) := by
  refine dotlessPath_join fun segment hSegment => ?_
  rcases mem_resolveSegments hSegment with hNil | ⟨hMem, hDotless⟩
  · cases hNil
  · exact ⟨Text.notMem_of_mem_splitOn hMem, hDotless⟩

/-- Encoding makes no dot segment. -/
theorem dotlessPath_encode {path : Text} (h : DotlessPath path) :
    DotlessPath (Percent.encode keepsInPath path) := by
  intro segment hSegment
  rw [splitOn_encode] at hSegment
  obtain ⟨t, ht, rfl⟩ := List.mem_map.mp hSegment
  obtain ⟨hDot, hDots⟩ := h t ht
  exact ⟨mt encode_eq_dots_iff.1.mp hDot, mt encode_eq_dots_iff.2.mp hDots⟩

/-- Removing dots adds slashes at most. -/
theorem mem_removeDots {path : Text} {c : CodePoint} (h : c ∈ removeDots path) :
    c ∈ path ∨ c = .scalar '/' := by
  rcases Text.mem_join h with hSlash | ⟨segment, hSegment, hc⟩
  · exact .inr (List.mem_singleton.mp hSlash)
  · rcases mem_resolveSegments hSegment with hNil | ⟨hMem, -⟩
    · cases hNil
    · exact .inl (Text.mem_of_mem_splitOn hMem hc)

/-! ### Putting together -/

/-- A URL that names neither a scheme nor a site. Its dot segments stay. -/
def Bare (u : Url) : Prop := u.scheme = [] ∧ u.userinfo = [] ∧ u.host = [] ∧ u.port = none

instance (u : Url) : Decidable u.Bare :=
  inferInstanceAs (Decidable (u.scheme = [] ∧ u.userinfo = [] ∧ u.host = [] ∧ u.port = none))

/-- What is put together out of parts: the parts before the path do not depend on
it, and it is escaped, without its dot segments if something stands before it. -/
theorem ofSmallParts_eq_ok {scheme userinfo host port path : Text} {query fragment : Option Text}
    {u : Url} (h : ofSmallParts scheme userinfo host port path query fragment = .ok u) :
    (u.scheme = scheme.lowerAscii ∧ encodePart keepsInUserinfo userinfo = .ok u.userinfo ∧
      normalHost host = .ok u.host ∧ normalPort scheme port = .ok u.port) ∧
    u.path = Percent.encode keepsInPath (if u.Bare then path else removeDots path) ∧
    u.query = query.map (Percent.encode keepsInQuery) := by
  rw [ofSmallParts] at h
  obtain ⟨user, hUser, h⟩ := Except.bind_eq_ok_iff.mp h
  obtain ⟨name, hName, h⟩ := Except.bind_eq_ok_iff.mp h
  obtain ⟨number, hNumber, h⟩ := Except.bind_eq_ok_iff.mp h
  obtain ⟨_, -, h⟩ := Except.bind_eq_ok_iff.mp h
  obtain ⟨escaped, hPath, h⟩ := Except.bind_eq_ok_iff.mp h
  obtain ⟨query', hQuery, h⟩ := Except.bind_eq_ok_iff.mp h
  obtain ⟨fragment', -, h⟩ := Except.bind_eq_ok_iff.mp h
  cases h
  refine ⟨⟨rfl, hUser, Except.mapError_eq_ok_iff.mp hName, hNumber⟩, ?_, ?_⟩
  · have hBare : (decide (scheme ≠ []) || (decide (user ≠ []) || decide (name ≠ []) ||
        decide (number ≠ none))) = true ↔
          ¬Bare ⟨scheme.lowerAscii, user, name, number, escaped, query', fragment'⟩ := by
      simp [Bare, Text.lowerAscii, imp_iff_not_or, or_assoc]
    have hEscaped := encodePart_eq_ok hPath
    rwa [if_congr hBare rfl rfl, ite_not] at hEscaped
  · cases query with
    | none =>
        cases hQuery
        rfl
    | some query =>
        obtain ⟨encoded, hEncoded, hSome⟩ := Except.map_eq_ok_iff.mp hQuery
        rw [← hSome, encodePart_eq_ok hEncoded]
        rfl

theorem withParts_eq_ok {u v : Url} {path : Text} {query fragment : Option Text}
    (h : u.withParts path query fragment = .ok v) :
    ofParts u.scheme u.authority path query fragment = .ok v := by
  obtain ⟨_, -, hParts⟩ := Except.bind_eq_ok_iff.mp h
  exact hParts

/-- What is put together: every part is escaped, and dot segments are left on
their own only. -/
structure Tidy (u : Url) : Prop where
  path : ∀ c ∈ u.path, keepsInPath c = true
  query : ∀ query, u.query = some query → ∀ c ∈ query, keepsInQuery c = true
  dots : u.Bare ∨ DotlessPath u.path

/-- A URL that is put together is tidy. -/
theorem tidy_of_ofParts {scheme authority path : Text} {query fragment : Option Text} {u : Url}
    (h : ofParts scheme authority path query fragment = .ok u) : u.Tidy := by
  obtain ⟨-, hPath, hQuery⟩ := ofSmallParts_eq_ok h
  refine ⟨?_, ?_, ?_⟩
  · rw [hPath]
    exact keeps_encode keepsInPath_escapeCharacters
  · intro own hOwn
    rw [hQuery, Option.map_eq_some_iff] at hOwn
    obtain ⟨given, -, rfl⟩ := hOwn
    exact keeps_encode fun c hc =>
      keepsInQuery_of_keepsInPath (keepsInPath_escapeCharacters c hc)
  · by_cases hBare : u.Bare
    · exact .inl hBare
    · rw [hPath, if_neg hBare]
      exact .inr (dotlessPath_encode (dotlessPath_removeDots path))

/-- A URL that is read is tidy. -/
theorem tidy_of_read {t : Text} {u : Url} (h : read t = .ok u) : u.Tidy := by
  rw [read] at h
  split at h
  · cases h
  split at h
  · cases h
  · exact tidy_of_ofParts h

/-- Without a scheme and a site there is nothing to put before another path. -/
theorem Bare.of_ofParts {u v : Url} (h : u.Bare) {path : Text} {query fragment : Option Text}
    (hParts : ofParts u.scheme u.authority path query fragment = .ok v) : v.Bare := by
  obtain ⟨hScheme, hUserinfo, hHost, hPort⟩ := h
  have hAuthority : u.authority = [] := by
    simp [authority, hUserinfo, hHost, hPort]
  rw [hScheme, hAuthority] at hParts
  obtain ⟨⟨hScheme', hUserinfo', hHost', hPort'⟩, -⟩ := ofSmallParts_eq_ok hParts
  refine ⟨hScheme', ?_, ?_, ?_⟩
  · exact (Except.ok.inj hUserinfo').symm
  · exact (Except.ok.inj hHost').symm
  · exact (Except.ok.inj hPort').symm

/-! ### Raw paths -/

/-- The path as it is sent; there is at least a slash. -/
def sentPath (u : Url) : Text := if u.path = [] then [.scalar '/'] else u.path

theorem rawPath_eq (u : Url) : u.rawPath = u.sentPath ++ u.markedQuery := rfl

theorem sentPath_ne_nil (u : Url) : u.sentPath ≠ [] := by
  rw [sentPath]
  split
  · exact List.cons_ne_nil _ _
  · assumption

theorem rawPath_of_path {u : Url} (hPath : u.path ≠ []) (hQuery : u.query = none) :
    u.rawPath = u.path := by
  rw [rawPath, if_neg hPath, markedQuery, hQuery, List.append_nil]

/-- The path of a tidy URL is encoded and has no dot segments, unless it has neither
site nor scheme. -/
theorem Tidy.sentPath {u : Url} (h : u.Tidy) :
    (∀ c ∈ u.sentPath, keepsInPath c = true) ∧ (u.Bare ∨ DotlessPath u.sentPath) := by
  rw [Url.sentPath]
  split
  · exact ⟨by decide, .inr (by decide)⟩
  · exact ⟨h.path, h.dots⟩

/-- A URL that has the scheme and the site of another one, and some text behind
its path and query. Behind a path dot segments of the text are resolved. -/
inductive Extends (u : Url) (rest : Text) (v : Url) : Prop where
  | appended (hQuery : v.query = none ↔ u.query = none) (hRaw : v.rawPath = u.rawPath ++ rest)
  | resolved (hQuery : v.query = none ∧ u.query = none) (hDots : DotlessPath u.rawPath)
      (hPath : v.path = removeDots (u.rawPath ++ rest))

section

variable {u v : Url} {rest : Text} (hTidy : u.Tidy) (hRest : ∀ c ∈ rest, keepsInPath c = true)

include hTidy hRest

/-- Without a query the text goes behind the path. -/
theorem extends_path (hQuery : u.query = none) (h : u.withRawPath (u.rawPath ++ rest) = .ok v) :
    Extends u rest v := by
  obtain ⟨hKeeps, hDots⟩ := hTidy.sentPath
  have hRaw : u.rawPath = u.sentPath := by
    rw [rawPath_eq, markedQuery, hQuery, List.append_nil]
  rw [← hRaw] at hKeeps hDots
  have hAll : ∀ c ∈ u.rawPath ++ rest, keepsInPath c = true := fun c hc =>
    (List.mem_append.mp hc).elim (hKeeps c) (hRest c)
  have hUnmarked : .scalar '?' ∉ u.rawPath ++ rest := fun hMem =>
    (keepsInPath_spec (hAll _ hMem)).2.1 rfl
  rw [withRawPath, splitAtFirst_of_notMem hUnmarked] at h
  have hParts := withParts_eq_ok h
  obtain ⟨-, hPath, hNone⟩ := ofSmallParts_eq_ok hParts
  by_cases hBare : v.Bare
  · rw [if_pos hBare, Percent.encode_of_keeps hAll] at hPath
    have hNonempty : v.path ≠ [] := by
      rw [hPath, hRaw]
      exact List.append_ne_nil_of_left_ne_nil u.sentPath_ne_nil _
    exact .appended ⟨fun _ => hQuery, fun _ => hNone⟩ (by rw [rawPath_of_path hNonempty hNone, hPath])
  · have hResolved : ∀ c ∈ removeDots (u.rawPath ++ rest), keepsInPath c = true := by
      intro c hc
      rcases mem_removeDots hc with hMem | rfl
      · exact hAll c hMem
      · decide
    rw [if_neg hBare, Percent.encode_of_keeps hResolved] at hPath
    exact .resolved ⟨hNone, hQuery⟩
      (hDots.resolve_left fun hOwn => hBare (hOwn.of_ofParts hParts)) hPath

/-- Behind a query the text is part of the query, where dots mean nothing. -/
theorem extends_query {query : Text} (hQuery : u.query = some query)
    (h : u.withRawPath (u.rawPath ++ rest) = .ok v) : Extends u rest v := by
  obtain ⟨hKeeps, hDots⟩ := hTidy.sentPath
  have hMark : .scalar '?' ∉ u.sentPath := fun hMem => (keepsInPath_spec (hKeeps _ hMem)).2.1 rfl
  have hAll : ∀ c ∈ query ++ rest, keepsInQuery c = true := fun c hc =>
    (List.mem_append.mp hc).elim (hTidy.query query hQuery c)
      fun hc => keepsInQuery_of_keepsInPath (hRest c hc)
  have hRaw : u.rawPath = u.sentPath ++ .scalar '?' :: query := by
    rw [rawPath_eq, markedQuery, hQuery]
  rw [hRaw, withRawPath, List.append_assoc, List.cons_append, splitAtFirst_append hMark] at h
  have hParts := withParts_eq_ok h
  obtain ⟨-, hPath, hSome⟩ := ofSmallParts_eq_ok hParts
  rw [Option.map_some, Percent.encode_of_keeps hAll] at hSome
  have hFront : v.path = u.sentPath := by
    rw [hPath]
    by_cases hBare : v.Bare
    · rw [if_pos hBare, Percent.encode_of_keeps hKeeps]
    · have hDotless := hDots.resolve_left fun hOwn => hBare (hOwn.of_ofParts hParts)
      rw [if_neg hBare, removeDots_of_dotless hDotless, Percent.encode_of_keeps hKeeps]
  refine .appended (by simp [hSome, hQuery]) ?_
  rw [hRaw, rawPath, markedQuery, hSome, hFront, if_neg u.sentPath_ne_nil, List.append_assoc]
  rfl

/-- What is put behind the path of a tidy URL extends it. -/
theorem Tidy.extends (h : u.withRawPath (u.rawPath ++ rest) = .ok v) : Extends u rest v := by
  cases hQuery : u.query with
  | none => exact extends_path hTidy hRest hQuery h
  | some query => exact extends_query hTidy hRest hQuery h

end

/-! ### Bases -/

/-- The path of a base, with its query, ends in a slash. -/
theorem base_of_readBase {t : Text} {base : Url} (h : readBase t = .ok base) :
    base.Tidy ∧ base.rawPath.getLast? = some (.scalar '/') := by
  obtain ⟨u, hRead, h⟩ := Except.bind_eq_ok_iff.mp h
  have hTidy := tidy_of_read hRead
  dsimp only at h
  split at h
  · next hSlash =>
      cases h
      exact ⟨hTidy, hSlash⟩
  · refine ⟨tidy_of_ofParts (withParts_eq_ok h), ?_⟩
    cases hTidy.extends (by decide) h with
    | appended hQuery hRaw =>
        rw [hRaw]
        exact List.getLast?_concat ..
    | resolved hQuery hDots hPath =>
        have hSlashed : DotlessPath (u.rawPath ++ "/") :=
          (@dotlessPath_append_iff u.rawPath []).mpr ⟨hDots, dotlessPath_nil⟩
        rw [removeDots_of_dotless hSlashed] at hPath
        have hNonempty : base.path ≠ [] := by
          rw [hPath]
          exact List.append_ne_nil_of_right_ne_nil _ (List.cons_ne_nil _ _)
        rw [rawPath_of_path hNonempty hQuery.1, hPath]
        exact List.getLast?_concat ..

/-! ### What is asked for -/

/-- What is no mark stays in front of the cut. -/
theorem splitAtFirst_cons {mark : Char} {c : CodePoint} (h : c ≠ .scalar mark) (t : Text) :
    splitAtFirst mark (c :: t) = (c :: (splitAtFirst mark t).1, (splitAtFirst mark t).2) := by
  rw [splitAtFirst, splitAtFirst, List.span_eq_takeWhile_dropWhile,
    List.span_eq_takeWhile_dropWhile, List.takeWhile_cons_of_pos (by simpa using h),
    List.dropWhile_cons_of_pos (by simpa using h)]
  cases t.dropWhile (· ≠ .scalar mark) <;> rfl

/-- What stands before the first occurrence is not cut off. -/
theorem mem_splitAtFirst {mark : Char} {c : CodePoint} (hc : c ≠ .scalar mark) {front : Text}
    (h : .scalar mark ∉ front) (back : Text) : c ∈ (splitAtFirst mark (front ++ c :: back)).1 := by
  induction front with
  | nil =>
      rw [List.nil_append, splitAtFirst_cons hc]
      exact List.mem_cons_self ..
  | cons d front ih =>
      obtain ⟨hd, hFront⟩ := not_or.mp (mt List.mem_cons.mpr h)
      rw [List.cons_append, splitAtFirst_cons (Ne.symm hd)]
      exact List.mem_cons_of_mem _ (ih hFront)

theorem head?_of_splitAtFirst {mark : Char} {t : Text} {c : CodePoint}
    (h : (splitAtFirst mark t).1.head? = some c) : t.head? = some c := by
  cases hSplit : splitAtFirst mark t with
  | mk before after? =>
      rw [hSplit] at h
      rw [eq_append_of_splitAtFirst hSplit, List.head?_append, h]
      rfl

/-- Path and query of a text before a fragment, each escaped in its own way. -/
def escapeBoth (t : Text) : Text :=
  Percent.encode keepsInPath (splitAtFirst '?' t).1 ++
    ((splitAtFirst '?' t).2.map (.scalar '?' :: Percent.encode keepsInQuery ·)).getD []

theorem mem_escapeBoth {t : Text} (h : .scalar '?' ∈ t) : .scalar '?' ∈ escapeBoth t := by
  obtain ⟨before, after, rfl, hBefore⟩ := List.eq_append_cons_of_mem h
  rw [escapeBoth, splitAtFirst_append hBefore]
  exact List.mem_append_right _ (List.mem_cons_self ..)

/-- A mark in a raw path makes for a query. -/
theorem query_of_withRawPath {u v : Url} {raw : Text} (hMark : .scalar '?' ∈ raw)
    (h : u.withRawPath raw = .ok v) : v.query ≠ none := by
  obtain ⟨before, after, rfl, hBefore⟩ := List.eq_append_cons_of_mem hMark
  rw [withRawPath, splitAtFirst_append hBefore] at h
  obtain ⟨-, -, hQuery⟩ := ofSmallParts_eq_ok (withParts_eq_ok h)
  rw [hQuery, Option.map_some]
  exact Option.some_ne_none _

/-- A rooted text is read as a path with a query and a fragment, and keeps its dot
segments. -/
theorem rawPath_of_read {rest : Text} {u : Url} (hSingle : rest.head? ≠ some (.scalar '/'))
    (h : read (.scalar '/' :: rest) = .ok u) :
    u.rawPath = .scalar '/' :: escapeBoth (splitAtFirst '#' rest).1 := by
  have hFirst : (splitAtFirst '?' (splitAtFirst '#' rest).1).1.head? ≠ some (.scalar '/') :=
    fun hHead => hSingle (head?_of_splitAtFirst (head?_of_splitAtFirst hHead))
  rw [read] at h
  split at h
  · cases h
  split at h
  · cases h
  · have hHash := @splitAtFirst_cons '#' (.scalar '/') (by decide) rest
    have hAsk := @splitAtFirst_cons '?' (.scalar '/') (by decide) (splitAtFirst '#' rest).1
    simp only [splitScheme_of_slash, hHash, hAsk, dropStart?_slashes hFirst] at h
    obtain ⟨⟨hScheme, hUserinfo, hHost, hPort⟩, hPath, hQuery⟩ := ofSmallParts_eq_ok h
    have hBare : u.Bare := ⟨hScheme, (Except.ok.inj hUserinfo).symm, (Except.ok.inj hHost).symm,
      (Except.ok.inj hPort).symm⟩
    have hSlash : keepsInPath (.scalar '/') = true := by decide
    rw [if_pos hBare, Percent.encode_cons_of_keeps hSlash] at hPath
    rw [rawPath, hPath, if_neg (List.cons_ne_nil _ _), markedQuery, hQuery, escapeBoth]
    cases (splitAtFirst '?' (splitAtFirst '#' rest).1).2 <;> rfl

/-- A rooted text, asked for below a base, stands behind the path and the query of
the base. -/
theorem below_eq_ok {base url : Url} {c : CodePoint} {rest : Text} (hc : keepsInPath c = true)
    (hSlash : c ≠ .scalar '/') (h : base.below (.scalar '/' :: c :: rest) = .ok url) :
    base.withRawPath (base.rawPath ++ escapeBoth (splitAtFirst '#' (c :: rest)).1) = .ok url := by
  obtain ⟨asked, hRead, h⟩ := Except.bind_eq_ok_iff.mp h
  have hFragment : c ≠ .scalar '#' := (keepsInPath_spec hc).2.2.1
  have hQuery : c ≠ .scalar '?' := (keepsInPath_spec hc).2.1
  have hRaw := rawPath_of_read (by simpa using hSlash) hRead
  have hHead : ∃ more, escapeBoth (splitAtFirst '#' (c :: rest)).1 = c :: more := by
    simp only [escapeBoth, splitAtFirst_cons hFragment, splitAtFirst_cons hQuery,
      Percent.encode_cons_of_keeps hc, List.cons_append]
    exact ⟨_, rfl⟩
  obtain ⟨more, hMore⟩ := hHead
  rw [hRaw, hMore] at h
  rw [hMore]
  simpa [hSlash] using h

/-- Without marks all of it is escaped as a path. -/
theorem Tidy.below {base url : Url} (hTidy : base.Tidy) {c : CodePoint} {rest : Text}
    (hc : keepsInPath c = true) (hSlash : c ≠ .scalar '/')
    (hMarks : .scalar '?' ∉ c :: rest ∧ .scalar '#' ∉ c :: rest)
    (h : base.below (.scalar '/' :: c :: rest) = .ok url) :
    Extends base (Percent.encode keepsInPath (c :: rest)) url := by
  have hRaw := below_eq_ok hc hSlash h
  rw [splitAtFirst_of_notMem hMarks.2, escapeBoth, splitAtFirst_of_notMem hMarks.1,
    Option.map_none, Option.getD_none, List.append_nil] at hRaw
  exact hTidy.extends (keeps_encode keepsInPath_escapeCharacters) hRaw

end DemurrageToken.Url
