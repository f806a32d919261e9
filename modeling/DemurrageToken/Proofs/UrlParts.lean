import DemurrageToken.Proofs.Except
import DemurrageToken.Proofs.Percent
import DemurrageToken.Proofs.Text
import DemurrageToken.Url.Join
import Mathlib.Tactic.SplitIfs

/-! How URLs are cut into parts and put together again, for texts whose parts
are in normal form. What is done to hosts and ports is left to a site, a pair of
an authority and what it comes to. -/
namespace DemurrageToken.Url

/-! ### Code points -/

/-- Controls of ASCII, which no URL may hold. -/
def IsControl (c : CodePoint) : Prop := c.val < 0x20 ∨ c.val = 0x7F

/-- The search for control characters finds none only where there is none. -/
theorem control?_eq_none_iff {t : Text} : control? t = none ↔ ∀ c ∈ t, ¬IsControl c := by
  have hControl : ∀ c : CodePoint,
      (decide (c.val < 0x20) || decide (c.val = 0x7F)) = false ↔ ¬IsControl c := by
    intro c
    simp [IsControl]
  rw [control?]
  cases hFound : t.findIdx? fun c => decide (c.val < 0x20) || decide (c.val = 0x7F) with
  | none =>
      rw [List.findIdx?_eq_none_iff] at hFound
      simpa [hControl] using hFound
  | some position =>
      obtain ⟨hBound, hHere, -⟩ := List.findIdx?_eq_some_iff_getElem.mp hFound
      simp only [Option.bind_some, List.getElem?_eq_getElem hBound, Option.map_some, reduceCtorEq,
        false_iff, not_forall]
      refine ⟨t[position], List.getElem_mem hBound, ?_⟩
      rw [← hControl, hHere]
      simp

/-- What is kept in a path is no control character, no mark that ends the path and no
surrogate. -/
theorem keepsInPath_spec {c : CodePoint} (h : keepsInPath c = true) :
    ¬IsControl c ∧ c ≠ .scalar '?' ∧ c ≠ .scalar '#' ∧ c.isSurrogate = false := by
  simp only [keepsInPath, keepsExcept, Bool.and_eq_true, decide_eq_true_eq, Bool.not_eq_true',
    List.contains_eq_mem, decide_eq_false_iff_not] at h
  refine ⟨?_, ?_, ?_, ?_⟩
  · simp only [IsControl]
    omega
  · rintro rfl
    exact h.2 (by decide)
  · rintro rfl
    exact h.2 (by decide)
  · rw [← Bool.not_eq_true, CodePoint.isSurrogate_iff]
    omega

/-- A part that may stand for itself is left alone. -/
theorem encodePart_of_keeps {keeps : CodePoint → Bool} {t : Text}
    (hFree : ∀ c ∈ t, c.isSurrogate = false) (hKeeps : ∀ c ∈ t, keeps c = true) :
    encodePart keeps t = .ok t := by
  have hFind : t.find? CodePoint.isSurrogate = none := by
    rw [List.find?_eq_none]
    intro c hc
    rw [hFree c hc]
    exact Bool.false_ne_true
  rw [encodePart, hFind, Percent.encode_of_keeps hKeeps]

/-! ### Paths -/

/-- A segment that is not dropped and drops nothing. -/
def Dotless (segment : Text) : Prop := segment ≠ Text.ofString "." ∧ segment ≠ Text.ofString ".."

instance (segment : Text) : Decidable (Dotless segment) :=
  inferInstanceAs (Decidable (segment ≠ Text.ofString "." ∧ segment ≠ Text.ofString ".."))

/-- Without dots no segment is removed. -/
theorem resolveSegments_of_dotless {segments : List Text}
    (h : ∀ segment ∈ segments, Dotless segment) (kept : List Text) :
    resolveSegments kept segments = kept.reverse ++ segments := by
  induction segments generalizing kept with
  | nil => rw [resolveSegments, List.append_nil]
  | cons segment segments ih =>
      obtain ⟨hDot, hDots⟩ := h segment (List.mem_cons_self ..)
      rw [resolveSegments, if_neg hDot, if_neg hDots,
        ih fun other hOther => h other (List.mem_cons_of_mem _ hOther)]
      simp

theorem removeDots_of_dotless {path : Text}
    (h : ∀ segment ∈ path.splitOn (.scalar '/'), Dotless segment) : removeDots path = path := by
  rw [removeDots, resolveSegments_of_dotless h]
  exact Text.join_splitOn _ _

theorem removeDots_of_plain {path : Text} (h : .scalar '.' ∉ path) : removeDots path = path := by
  refine removeDots_of_dotless fun segment hSegment => ?_
  have hPlain : .scalar '.' ∉ segment := fun hDot => h (Text.mem_of_mem_splitOn hSegment hDot)
  constructor <;> rintro rfl <;> exact hPlain (by decide)

/-- A path in normal form: empty or rooted, without full stops, and of
characters that stand for themselves. -/
structure PlainPath (path : Text) : Prop where
  rooted : path = [] ∨ path.head? = some (.scalar '/')
  keeps : ∀ c ∈ path, keepsInPath c = true ∧ c ≠ .scalar '.'

namespace PlainPath

variable {path : Text}

theorem dotless (h : PlainPath path) : .scalar '.' ∉ path := fun hDot => (h.keeps _ hDot).2 rfl

theorem encodePart_eq (h : PlainPath path) : encodePart keepsInPath path = .ok path :=
  encodePart_of_keeps (fun c hc => (keepsInPath_spec (h.keeps c hc).1).2.2.2)
    fun c hc => (h.keeps c hc).1

theorem unmarked (h : PlainPath path) : .scalar '?' ∉ path ∧ .scalar '#' ∉ path :=
  ⟨fun hMark => (keepsInPath_spec (h.keeps _ hMark).1).2.1 rfl,
    fun hMark => (keepsInPath_spec (h.keeps _ hMark).1).2.2.1 rfl⟩

theorem controlFree (h : PlainPath path) : control? path = none :=
  control?_eq_none_iff.mpr fun c hc => (keepsInPath_spec (h.keeps c hc).1).1

theorem append {rest : Text} (h : PlainPath path) (hRest : PlainPath rest) :
    PlainPath (path ++ rest) where
  rooted := by
    rcases h.rooted with rfl | hHead
    · exact hRest.rooted
    · right
      rw [List.head?_append, hHead]
      rfl
  keeps c hc := (List.mem_append.mp hc).elim (h.keeps c) (hRest.keeps c)

theorem checkPath_eq (h : PlainPath path) (hasScheme : Bool) :
    checkPath hasScheme true path = .ok () := by
  rcases h.rooted with rfl | hHead
  · cases hasScheme <;> rfl
  · simp [checkPath, hHead]

end PlainPath

/-! ### Authorities -/

/-- An authority without userinfo comes to a host and a port. -/
def Names (scheme authority host : Text) (port : Option Int) : Prop :=
  ∃ given digits, splitAuthority authority = ([], given, digits) ∧ normalHost given = .ok host ∧
    normalPort scheme digits = .ok port

/-- An authority comes to the host and the port of a URL, and so does the
authority that this URL is written with. -/
structure Settles (authority : Text) (u : Url) : Prop where
  small : u.scheme.lowerAscii = u.scheme
  userinfo : u.userinfo = []
  host : u.host ≠ []
  given : Names u.scheme authority u.host u.port
  own : Names u.scheme u.authority u.host u.port
  controlFree : control? u.scheme = none ∧ control? u.authority = none
  length : u.scheme.length ≤ lengthLimit ∧ u.authority.length ≤ lengthLimit

/-- The URL with another path and nothing after it. -/
def atPath (u : Url) (path : Text) : Url := { u with path := path, query := none, fragment := none }

theorem rawPath_atPath (u : Url) {path : Text} (h : path ≠ []) :
    (u.atPath path).rawPath = path := by
  simp [atPath, rawPath, markedQuery, h]

/-- Parts in normal form make up the URL that has them. -/
theorem ofParts_of_names {authority : Text} {u : Url} (hSmall : u.scheme.lowerAscii = u.scheme)
    (hUserinfo : u.userinfo = []) (hHost : u.host ≠ [])
    (hNames : Names u.scheme authority u.host u.port) {path : Text} (hPath : PlainPath path) :
    ofParts u.scheme authority path none none =
      .ok (u.atPath path) := by
  obtain ⟨given, digits, hSplit, hGiven, hDigits⟩ := hNames
  have hEmpty : encodePart keepsInUserinfo [] = .ok [] := rfl
  rw [ofParts, hSplit]
  simp only [ofSmallParts, hEmpty, hGiven, hDigits, Except.mapError_ok, Except.ok_bind, hHost,
    removeDots_of_plain hPath.dotless, hPath.encodePart_eq, hPath.checkPath_eq, ne_eq,
    not_false_eq_true, decide_true, Bool.or_true, Bool.true_or, ite_self, Option.mapM_none, hSmall,
    atPath, hUserinfo]
  rfl

/-- A settled URL may get any plain path. -/
theorem withParts_of_settles {authority : Text} {u : Url} (h : Settles authority u) {path : Text}
    (hPath : PlainPath path) (hLength : path.length ≤ lengthLimit) :
    u.withParts path none none = .ok (u.atPath path) := by
  have hNone : control? ((none : Option Text).getD []) = none := rfl
  have hShort : ((none : Option Text).getD []).length ≤ lengthLimit := Nat.zero_le _
  have hParts : checkParts [(.scheme, u.scheme), (.authority, u.authority), (.path, path),
      (.query, (none : Option Text).getD []), (.fragment, (none : Option Text).getD [])] =
        .ok () := by
    simp only [checkParts, Nat.not_lt.mpr h.length.1, Nat.not_lt.mpr h.length.2,
      Nat.not_lt.mpr hLength, Nat.not_lt.mpr hShort, h.controlFree.1, h.controlFree.2,
      hPath.controlFree, hNone, if_false]
  rw [withParts, hParts, Except.ok_bind]
  exact ofParts_of_names h.small h.userinfo h.host h.own hPath

/-! ### Reading -/

/-- Without a mark there is nothing to cut at. -/
theorem splitAtFirst_of_notMem {mark : Char} {t : Text} (h : .scalar mark ∉ t) :
    splitAtFirst mark t = (t, none) := by
  have hSpan : t.span (· ≠ .scalar mark) = (t, []) := by
    rw [Text.span_eq_iff]
    refine ⟨(List.append_nil t).symm, ?_, by simp⟩
    intro c hc
    exact decide_eq_true (ne_of_mem_of_not_mem hc h)
  rw [splitAtFirst, hSpan]

/-- A text is cut at the first of its marks. -/
theorem splitAtFirst_append {mark : Char} {before : Text} (h : .scalar mark ∉ before)
    (after : Text) :
    splitAtFirst mark (before ++ .scalar mark :: after) = (before, some after) := by
  have hSpan : (before ++ .scalar mark :: after).span (· ≠ .scalar mark) =
      (before, .scalar mark :: after) :=
    Text.span_eq_iff.mpr ⟨rfl, fun c hc => decide_eq_true (ne_of_mem_of_not_mem hc h), by simp⟩
  rw [splitAtFirst, hSpan]

/-- A text that is cut at a character is what comes before, the character, and
what comes after. -/
theorem eq_append_of_splitAtFirst {mark : Char} {t before : Text} {after? : Option Text}
    (h : splitAtFirst mark t = (before, after?)) :
    t = before ++ (after?.map (.scalar mark :: ·)).getD [] := by
  rw [splitAtFirst] at h
  cases hSpan : t.span (· ≠ .scalar mark) with
  | mk front back =>
      obtain ⟨rfl, -, hMark⟩ := Text.span_eq_iff.mp hSpan
      rw [hSpan] at h
      cases back with
      | nil =>
          cases h
          rfl
      | cons c back =>
          cases h
          obtain rfl : c = .scalar mark := by simpa using hMark c rfl
          rfl

/-- A scheme is cut off at its colon. -/
theorem splitScheme_of_scheme {c : Char} {scheme rest : Text} (hc : c.isAlpha = true)
    (hScheme : ∀ d ∈ .scalar c :: scheme, isSchemeCharacter d = true) :
    splitScheme (.scalar c :: scheme ++ .scalar ':' :: rest) = (.scalar c :: scheme, rest) := by
  have hSpan : (.scalar c :: scheme ++ .scalar ':' :: rest).span isSchemeCharacter =
      (.scalar c :: scheme, .scalar ':' :: rest) := by
    rw [Text.span_eq_iff]
    refine ⟨rfl, hScheme, ?_⟩
    rintro d ⟨⟩
    decide
  rw [splitScheme, hSpan]
  simp [hc]

theorem splitScheme_of_slash (rest : Text) :
    splitScheme (.scalar '/' :: rest) = ([], .scalar '/' :: rest) := rfl

/-- A text without controls and without the marks that end an authority. -/
def IsAuthority (t : Text) : Prop :=
  ∀ c ∈ t, ¬IsControl c ∧ c ≠ .scalar '/' ∧ c ≠ .scalar '?' ∧ c ≠ .scalar '#'

/-- The schemes of the web. -/
def IsWebScheme (scheme : Text) : Prop :=
  scheme = Text.ofString "http" ∨ scheme = Text.ofString "https"

theorem IsWebScheme.splitScheme_eq {scheme : Text} (h : IsWebScheme scheme) (rest : Text) :
    splitScheme (scheme ++ .scalar ':' :: rest) = (scheme, rest) := by
  rcases h with rfl | rfl
  · exact @splitScheme_of_scheme 'h' (Text.ofString "ttp") rest (by decide) (by decide)
  · exact @splitScheme_of_scheme 'h' (Text.ofString "ttps") rest (by decide) (by decide)

theorem IsWebScheme.isAuthority {scheme : Text} (h : IsWebScheme scheme) : IsAuthority scheme := by
  rcases h with rfl | rfl
  · simp only [IsAuthority, IsControl]
    decide
  · simp only [IsAuthority, IsControl]
    decide

theorem IsWebScheme.normal {scheme : Text} (h : IsWebScheme scheme) :
    scheme.lowerAscii = scheme ∧ scheme.length ≤ 5 := by
  rcases h with rfl | rfl
  · decide
  · decide

/-- A base is read part by part. -/
theorem read_of_settles {authority : Text} {u : Url} (hSettles : Settles authority u)
    (hScheme : IsWebScheme u.scheme) (hAuthority : IsAuthority authority) {path : Text}
    (hPath : PlainPath path)
    (hLength : (u.scheme ++ "://" ++ authority ++ path).length ≤ lengthLimit) :
    read (u.scheme ++ "://" ++ authority ++ path) =
      .ok (u.atPath path) := by
  have hText : u.scheme ++ "://" ++ authority ++ path =
      u.scheme ++ .scalar ':' :: (.scalar '/' :: .scalar '/' :: (authority ++ path)) := by
    simp [Text.ofString, Text.ofChars]
  have hControl : control? (u.scheme ++ "://" ++ authority ++ path) = none := by
    rw [hText, control?_eq_none_iff]
    intro c hc
    simp only [List.mem_append, List.mem_cons] at hc
    rcases hc with hc | rfl | rfl | rfl | hc | hc
    · exact (hScheme.isAuthority c hc).1
    · simp [IsControl]; decide
    · simp [IsControl]; decide
    · simp [IsControl]; decide
    · exact (hAuthority c hc).1
    · exact (keepsInPath_spec (hPath.keeps c hc).1).1
  have hFragment : .scalar '#' ∉ .scalar '/' :: .scalar '/' :: (authority ++ path) := by
    simp only [List.mem_cons, List.mem_append, not_or]
    exact ⟨by decide, by decide, fun hMark => (hAuthority _ hMark).2.2.2 rfl, hPath.unmarked.2⟩
  have hQuery : .scalar '?' ∉ .scalar '/' :: .scalar '/' :: (authority ++ path) := by
    simp only [List.mem_cons, List.mem_append, not_or]
    exact ⟨by decide, by decide, fun hMark => (hAuthority _ hMark).2.2.1 rfl, hPath.unmarked.1⟩
  have hInner : Text.dropStart? "//" (.scalar '/' :: .scalar '/' :: (authority ++ path)) =
      some (authority ++ path) := rfl
  have hSpan : (authority ++ path).span (· ≠ .scalar '/') = (authority, path) := by
    rw [Text.span_eq_iff]
    refine ⟨rfl, fun c hc => decide_eq_true (hAuthority c hc).2.1, ?_⟩
    intro c hc
    rcases hPath.rooted with rfl | hHead
    · simp at hc
    · obtain rfl : .scalar '/' = c := Option.some.inj (hHead.symm.trans hc)
      decide
  rw [read, if_neg (Nat.not_lt.mpr hLength), hControl]
  simp only [hText, hScheme.splitScheme_eq, splitAtFirst_of_notMem hFragment,
    splitAtFirst_of_notMem hQuery, hInner, hSpan]
  exact ofParts_of_names hSettles.small hSettles.userinfo hSettles.host hSettles.given hPath

/-- A single slash opens no authority. -/
theorem dropStart?_slashes {rest : Text} (h : rest.head? ≠ some (.scalar '/')) :
    Text.dropStart? "//" (.scalar '/' :: rest) = none := by
  rw [Option.eq_none_iff_forall_ne_some]
  intro inner hInner
  rw [Text.dropStart?_eq_some_iff] at hInner
  obtain rfl : rest = .scalar '/' :: inner := List.tail_eq_of_cons_eq hInner
  exact h rfl

/-- A path on its own is read as a path. -/
theorem read_path {rest : Text} (hPath : PlainPath (.scalar '/' :: rest))
    (hSingle : rest.head? ≠ some (.scalar '/'))
    (hLength : (.scalar '/' :: rest : Text).length ≤ lengthLimit) :
    read (.scalar '/' :: rest) = .ok ⟨[], [], [], none, .scalar '/' :: rest, none, none⟩ := by
  have hInner := dropStart?_slashes hSingle
  have hSplit : splitAuthority [] = ([], [], []) := rfl
  have hCheck : checkPath false false (.scalar '/' :: rest) = .ok () := by
    have hColon : Text.startsWith ":" (.scalar '/' :: rest) = false := rfl
    have hSlashes : Text.startsWith "//" (.scalar '/' :: rest) = false := by
      rw [Text.startsWith, hInner]
      rfl
    simp [checkPath, hColon, hSlashes]
  have hEmpty : encodePart keepsInUserinfo [] = .ok [] := rfl
  have hHost : normalHost [] = .ok [] := rfl
  have hPort : normalPort [] [] = .ok none := rfl
  rw [read, if_neg (Nat.not_lt.mpr hLength), hPath.controlFree]
  simp only [splitScheme_of_slash, splitAtFirst_of_notMem hPath.unmarked.1,
    splitAtFirst_of_notMem hPath.unmarked.2, hInner, ofParts, hSplit, ofSmallParts, hEmpty, hHost,
    hPort, Except.mapError_ok, Except.ok_bind, ne_eq, not_true_eq_false, decide_false,
    Bool.or_false, hCheck, Bool.false_eq_true, if_false, hPath.encodePart_eq, Option.mapM_none]
  rfl

/-! ### Below a base -/

/-- Only scheme, userinfo, host and port matter to an authority. -/
theorem Settles.atPath {authority : Text} {u : Url} (h : Settles authority u) (path : Text) :
    Settles authority (u.atPath path) :=
  ⟨h.small, h.userinfo, h.host, h.given, h.own, h.controlFree, h.length⟩

/-- A URL that has settled takes a plain path as it is. -/
theorem withRawPath_of_settles {authority : Text} {u : Url} (h : Settles authority u)
    (hFragment : u.fragment = none) {path : Text} (hPath : PlainPath path)
    (hLength : path.length ≤ lengthLimit) :
    u.withRawPath path = .ok (u.atPath path) := by
  rw [withRawPath, splitAtFirst_of_notMem hPath.unmarked.1, hFragment]
  exact withParts_of_settles h hPath hLength

theorem plainPath_slash : PlainPath [.scalar '/'] := ⟨.inr rfl, by decide⟩

/-- A base gets a slash at its end, whether or not it has a path. -/
theorem readBase_of_settles {authority : Text} {u : Url} (hSettles : Settles authority u)
    (hScheme : IsWebScheme u.scheme) (hAuthority : IsAuthority authority) {front : Text}
    (hFront : PlainPath front) (hLast : front.getLast? ≠ some (.scalar '/'))
    (hLength : (u.scheme ++ "://" ++ authority ++ front).length ≤ lengthLimit)
    (hSlash : front.length < lengthLimit) :
    ∃ path, readBase (u.scheme ++ "://" ++ authority ++ front) =
        .ok (u.atPath path) ∧
      (u.atPath path).rawPath = front ++ "/" := by
  have hRead := read_of_settles hSettles hScheme hAuthority hFront hLength
  rw [readBase, hRead, Except.ok_bind]
  -- Without a path the slash is not written into the base, but it is sent all the same.
  by_cases hEmpty : front = []
  · subst hEmpty
    exact ⟨[], rfl, rfl⟩
  · have hRaw := rawPath_atPath u hEmpty
    have hPath : PlainPath (front ++ "/") := hFront.append plainPath_slash
    have hJoined := withRawPath_of_settles (hSettles.atPath front) rfl hPath (by
      rw [List.length_append]
      exact hSlash)
    refine ⟨front ++ "/", ?_, ?_⟩
    · rw [hRaw, if_neg hLast]
      exact hJoined
    · exact rawPath_atPath u (List.append_ne_nil_of_left_ne_nil hEmpty _)

/-- A path below a base goes on where the base ends, after one slash. -/
theorem below_eq {base : Url} {front rest : Text} (hRaw : base.rawPath = front ++ "/")
    (hRest : PlainPath (.scalar '/' :: rest)) (hSingle : rest.head? ≠ some (.scalar '/'))
    (hLength : (.scalar '/' :: rest : Text).length ≤ lengthLimit) :
    base.below (.scalar '/' :: rest) = base.withRawPath (front ++ .scalar '/' :: rest) := by
  have hAsked : rawPath ⟨[], [], [], none, .scalar '/' :: rest, none, none⟩ =
      .scalar '/' :: rest := by
    simp [rawPath, markedQuery]
  have hDropped : (.scalar '/' :: rest : Text).dropWhile (· = .scalar '/') = rest := by
    cases rest with
    | nil => rfl
    | cons c rest =>
        have hc : c ≠ .scalar '/' := fun hSlash => hSingle (congrArg some hSlash)
        simp [hc]
  have hMerged : front ++ "/" ++ rest = front ++ .scalar '/' :: rest := by
    simp [Text.ofString, Text.ofChars]
  rw [below, read_path hRest hSingle hLength, Except.ok_bind, hAsked, hDropped, hRaw, hMerged]

/-- Below a base that has settled, a plain path is put behind the path of the base. -/
theorem below_of_settles {authority : Text} {base : Url} (hSettles : Settles authority base)
    (hFragment : base.fragment = none) {front rest : Text} (hFront : PlainPath front)
    (hRaw : base.rawPath = front ++ "/") (hRest : PlainPath (.scalar '/' :: rest))
    (hSingle : rest.head? ≠ some (.scalar '/'))
    (hLength : (front ++ .scalar '/' :: rest).length ≤ lengthLimit) :
    base.below (.scalar '/' :: rest) =
      .ok (base.atPath (front ++ .scalar '/' :: rest)) := by
  have hShort : (.scalar '/' :: rest : Text).length ≤ lengthLimit := by
    rw [List.length_append] at hLength
    omega
  rw [below_eq hRaw hRest hSingle hShort]
  exact withRawPath_of_settles hSettles hFragment (hFront.append hRest) hLength

/-- A settled URL gets no path that is too long. -/
theorem withRawPath_of_tooLong {authority : Text} {u : Url} (h : Settles authority u) {path : Text}
    (hPath : PlainPath path) (hLength : lengthLimit < path.length) :
    u.withRawPath path = .error (.partTooLong .path) := by
  have hParts : ∀ rest, checkParts ((.scheme, u.scheme) :: (.authority, u.authority) ::
      (.path, path) :: rest) = .error (.partTooLong .path) := by
    intro rest
    simp only [checkParts, Nat.not_lt.mpr h.length.1, Nat.not_lt.mpr h.length.2, hLength,
      h.controlFree.1, h.controlFree.2, if_false, if_true]
  rw [withRawPath, splitAtFirst_of_notMem hPath.unmarked.1]
  simp only [withParts, hParts]
  rfl

/-- Below a base there is no URL for a path that is too long with that of the
base before it. -/
theorem below_of_tooLong {authority : Text} {base : Url} (hSettles : Settles authority base)
    {front rest : Text} (hFront : PlainPath front) (hRaw : base.rawPath = front ++ "/")
    (hRest : PlainPath (.scalar '/' :: rest)) (hSingle : rest.head? ≠ some (.scalar '/'))
    (hLength : lengthLimit < (front ++ .scalar '/' :: rest).length) :
    ∃ fault, base.below (.scalar '/' :: rest) = .error fault := by
  by_cases hShort : (.scalar '/' :: rest : Text).length ≤ lengthLimit
  · rw [below_eq hRaw hRest hSingle hShort]
    exact ⟨_, withRawPath_of_tooLong hSettles (hFront.append hRest) hLength⟩
  · refine ⟨.tooLong, ?_⟩
    rw [below, read, if_pos (Nat.lt_of_not_le hShort)]
    rfl

end DemurrageToken.Url
