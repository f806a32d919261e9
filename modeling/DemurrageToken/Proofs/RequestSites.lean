import DemurrageToken.Proofs.BaseRequests

/-! The URLs that are asked below a base of the usual form: each is written with a
scheme and with a site whose brackets hold an address, so that a response can
set cookies for it. -/
namespace DemurrageToken

namespace Url

/-! ### Brackets -/

/-- An address looks like one. -/
theorem looksLikeIpv4_of_isIpv4 {t : Text} (h : isIpv4 t = true) : looksLikeIpv4 t = true := by
  simp only [isIpv4, looksLikeIpv4, Bool.and_eq_true, List.all_eq_true] at h ⊢
  refine ⟨h.1, fun part hPart => ?_⟩
  have hOctet := h.2 part hPart
  simp only [isOctet, Bool.and_eq_true, decide_eq_true_eq] at hOctet
  exact ⟨decide_eq_true (List.ne_nil_of_length_pos hOctet.1.1.1.1),
    List.all_eq_true.mp hOctet.1.1.2⟩

theorem checkBrackets_of_notMem {t : Text} (h : ∀ c ∈ t, c ≠ .scalar '[' ∧ c ≠ .scalar ']') :
    Reference.checkBrackets t = .ok () := by
  have hOpen : .scalar '[' ∉ t := fun hMem => (h _ hMem).1 rfl
  have hClose : .scalar ']' ∉ t := fun hMem => (h _ hMem).2 rfl
  simp [Reference.checkBrackets, hOpen, hClose]

/-- What can be read as an address may stand in brackets. -/
theorem checkBracketed_of_isIpv6 {inner : Text} (h : isIpv6 inner = true) :
    Reference.checkBracketed inner = .ok () := by
  have hIpv4 : isIpv4 inner = false := by
    rw [← Bool.not_eq_true]
    intro hIpv4
    have hLooks := looksLikeIpv4_of_isIpv4 hIpv4
    exact absurd (isAddressCharacter_of_looksLikeIpv4 hLooks (isIpv6_spec h).1) (by decide)
  rw [Reference.checkBracketed.eq_def]
  split
  · exact absurd (isIpv6_head h rfl) (by decide)
  · rw [hIpv4, h]
    rfl

/-- An address in brackets passes, with whatever follows the brackets. -/
theorem checkBrackets_of_isIpv6 {inner : Text} (h : isIpv6 inner = true)
    (hClose : .scalar ']' ∉ inner) (part : Text) :
    Reference.checkBrackets ("[" ++ inner ++ "]" ++ part) = .ok () := by
  have hText : ("[" ++ inner ++ "]" ++ part : Text) =
      [] ++ .scalar '[' :: (inner ++ .scalar ']' :: part) := by
    simp [Text.ofString, Text.ofChars]
  have hBoth : ("[" ++ inner ++ "]" ++ part : Text).contains (.scalar '[') = true ∧
      ("[" ++ inner ++ "]" ++ part : Text).contains (.scalar ']') = true := by
    rw [hText]
    simp
  rw [Reference.checkBrackets, hBoth.1, hBoth.2, hText, splitAtFirst_append List.not_mem_nil]
  simp only [ne_eq, not_true_eq_false, if_false, if_true, Option.getD_some,
    splitAtFirst_append hClose, checkBracketed_of_isIpv6 h]

theorem bracketFree_of_keepsInHost {c : CodePoint} (h : keepsInHost c = true) :
    c ≠ .scalar '[' ∧ c ≠ .scalar ']' :=
  CodePoint.of_forall_ascii
    (p := fun c => keepsInHost c = true → c ≠ .scalar '[' ∧ c ≠ .scalar ']') (by decide +kernel)
    (isAscii_of_keepsInHost h) h

theorem IsPortPart.bracketFree {part : Text} (h : IsPortPart part) :
    ∀ c ∈ part, c ≠ .scalar '[' ∧ c ≠ .scalar ']' := by
  intro c hc
  rcases h.mem hc with rfl | hDigit
  · decide
  · constructor <;> rintro rfl <;> exact absurd hDigit (by decide)

/-- A host in its normal form passes the check of brackets. -/
theorem NormalName.checkBrackets {name part : Text} (h : NormalName name)
    (hPart : IsPortPart part) : Reference.checkBrackets (hostPart name ++ part) = .ok () := by
  have hColon : .scalar ':' ∉ name :=
    fun hMark => (keepsInHost_spec (h.keeps _ hMark)).2 _ (by decide) rfl
  have hName : hostPart name = name := by simp [hostPart, hColon]
  rw [hName]
  exact checkBrackets_of_notMem fun c hc => (List.mem_append.mp hc).elim
    (fun hc => bracketFree_of_keepsInHost (h.keeps c hc)) (hPart.bracketFree c)

theorem hostPart_ne_nil {host : Text} (h : host ≠ []) : hostPart host ≠ [] := by
  rw [hostPart]
  split
  · simp [Text.ofString, Text.ofChars]
  · exact h

/-- The brackets in the site of a host hold an address. -/
theorem IsHost.checkBrackets {given host part : Text} (h : IsHost given)
    (hNormal : normalHost given = .ok host) (hPart : IsPortPart part) :
    Reference.checkBrackets (hostPart host ++ part) = .ok () := by
  cases h with
  | ascii hNonempty hKeeps hAddress hMarked =>
      rw [normalHost_of_ascii hNonempty hKeeps hAddress] at hNormal
      cases hNormal
      exact (normalName_lowerAscii hNonempty hKeeps hAddress hMarked).checkBrackets hPart
  | international hBeyond hKeeps hWrite hAddress hMarked =>
      rw [normalHost_of_international hBeyond hKeeps hWrite] at hNormal
      cases hNormal
      obtain ⟨hNonempty, -, hCharacters⟩ :=
        DomainName.write_eq_ok (fun c hc => Text.lowered_of_mem_lower hc) hWrite
      have hName := normalName_of_labelCharacters hNonempty hCharacters hAddress hMarked
      exact hName.checkBrackets hPart
  | @bracketed inner hInner hKeeps =>
      rw [normalHost_of_brackets hInner] at hNormal
      obtain rfl : inner = host := Except.ok.inj hNormal
      have hClose : .scalar ']' ∉ inner := fun hMem => absurd (hKeeps _ hMem) (by decide)
      have hPart : hostPart inner = "[" ++ inner ++ "]" := by
        rw [hostPart, List.contains_iff_mem.mpr (isIpv6_spec hInner).1]
        rfl
      rw [hPart]
      exact checkBrackets_of_isIpv6 hInner hClose part

end Url

namespace Node

open Url

/-! ### Sites -/

/-- A URL with a scheme of the web and a plain path has a site for cookies, if the
brackets in its authority hold an address. -/
theorem checkCookieSite_of_written {url : Url} {scheme site path : Text}
    (hWrite : url.write = scheme ++ "://" ++ site ++ path) (hScheme : IsWebScheme scheme)
    (hSite : IsAuthority site) (hBrackets : Reference.checkBrackets site = .ok ())
    (hPath : PlainPath path) : checkCookieSite url = .ok () := by
  have hText : url.write =
      scheme ++ .scalar ':' :: .scalar '/' :: .scalar '/' :: (site ++ path) := by
    rw [hWrite]
    simp [Text.ofString, Text.ofChars]
  have hWrapped : Text.dropStart? "URL:" url.write = none := by
    rw [hText]
    rcases hScheme with rfl | rfl <;> rfl
  have hMark : .scalar '#' ∉ url.write := by
    rw [hText]
    simp only [List.mem_append, List.mem_cons, not_or]
    exact ⟨fun hMark => (hScheme.isAuthority _ hMark).2.2.2 rfl, by decide, by decide, by decide,
      fun hMark => (hSite _ hMark).2.2.2 rfl, hPath.unmarked.2⟩
  have hType : hasType url.write = true := by
    rw [hText]
    rcases hScheme with rfl | rfl <;> rfl
  have hInner : Text.dropStart? "//" (.scalar '/' :: .scalar '/' :: (site ++ path)) =
      some (site ++ path) := rfl
  have hSpan : (site ++ path).span (fun c => !(Text.ofString "/?#").contains c) = (site, path) := by
    rw [Text.span_eq_iff]
    refine ⟨rfl, fun c hc => ?_, fun c hc => ?_⟩
    · obtain ⟨-, hSlash, hQuery, hFragment⟩ := hSite c hc
      simp [Text.ofString, Text.ofChars, hSlash, hQuery, hFragment]
    · rcases hPath.rooted with rfl | hHead
      · cases hc
      · obtain rfl : .scalar '/' = c := Option.some.inj (hHead.symm.trans hc)
        decide
  have hRead : ∃ reference, Reference.read url.write = .ok reference := by
    rw [Reference.read, hText, hScheme.splitScheme_eq]
    simp only [hInner, hSpan, hBrackets, Except.ok_bind]
    exact ⟨_, rfl⟩
  obtain ⟨reference, hRead⟩ := hRead
  simp only [checkCookieSite, hWrapped, Option.getD_none, splitAfterLast?_of_notMem hMark, if_true,
    hType, Bool.not_true, Bool.false_eq_true, if_false, hRead, Except.mapError_ok]
  rfl

variable {b : Base} {contract e : Text} {url : Url}

/-- The request below a base of the usual form names a site, so that cookies have
somewhere to belong. -/
theorem Base.checkCookieSite_of_asks (hAsks : b.Asks contract e url)
    (hUserinfo : url.userinfo = []) (hFragment : url.fragment = none)
    (hContract : ∀ c ∈ contract, Percent.isLetterOrDigit c = true) (hEncoded : EscapedBase64 e) :
    checkCookieSite url = .ok () := by
  obtain ⟨given, digits, hSplit, hGiven, hDigits⟩ := hAsks.site
  obtain ⟨host, hHost⟩ := b.isHost.settles
  obtain ⟨port, hPort, hOwn, -⟩ := b.isPortPart.settles b.scheme
  -- The site of the base is cut where its host ends.
  rw [hHost.reads.split b.isPortPart] at hSplit
  obtain ⟨rfl, rfl⟩ : b.host = given ∧ b.part.drop 1 = digits := by simpa using hSplit
  obtain rfl : host = url.host := Except.ok.inj (hHost.reads.normal.symm.trans hGiven)
  obtain rfl : port = url.port := Except.ok.inj (hPort.symm.trans hDigits)
  have hPath : url.path = b.path contract e := by
    have hLong : (b.path contract e).length ≠ 1 := by
      simp [Base.path, smartPath, Text.ofString, Text.ofChars]
      omega
    have hRaw := hAsks.path
    rw [rawPath, markedQuery, hAsks.query, List.append_nil] at hRaw
    split at hRaw
    · exact absurd (congrArg List.length hRaw.symm) hLong
    · exact hRaw
  have hWrite : url.write =
      b.scheme ++ "://" ++ (hostPart url.host ++ portPart url.port) ++ b.path contract e := by
    have hScheme : b.scheme ≠ [] := by rcases b.isWebScheme with h | h <;> rw [h] <;> decide
    have hAuthority : hostPart url.host ++ portPart url.port ≠ [] :=
      List.append_ne_nil_of_left_ne_nil (hostPart_ne_nil hHost.nonempty) _
    rw [write, authority_eq hUserinfo, hAsks.scheme, hPath, markedQuery, hAsks.query, hFragment,
      if_neg hScheme, if_neg hAuthority]
    simp [Text.ofString, Text.ofChars]
  refine checkCookieSite_of_written hWrite b.isWebScheme
    (hHost.rereads.isAuthority.append hOwn.isAuthority) (b.isHost.checkBrackets hGiven hOwn) ?_
  exact (plainPath_frontPath b.characters).append (plainPath_smartPath hContract hEncoded)

/-- What a client of a base sends has a site for cookies. -/
theorem Base.checkCookieSite_of_connect {environment : Environment} {slashes : Nat} {timeout : Json}
    {client : Client}
    (hConnect : Client.connect environment (some (b.slashed slashes)) timeout = .ok client)
    (hContract : ∀ c ∈ contract, Percent.isLetterOrDigit c = true) {query : Json}
    {reply : Except TransportFault Response}
    (hUrl : url ∈ (client.query contract query reply).sent) : checkCookieSite url = .ok () := by
  have hSent := b.exists_url_of_connect hConnect hContract query reply
  cases hEncode : encodeQuery query with
  | error run =>
      simp only [hEncode] at hSent
      rw [hSent] at hUrl
      cases hUrl
  | ok e =>
      simp only [hEncode] at hSent
      split at hSent
      · obtain ⟨only, hOnly, hAsks, hUserinfo, hFragment⟩ := hSent
        rw [hOnly] at hUrl
        obtain rfl := List.mem_singleton.mp hUrl
        exact checkCookieSite_of_asks hAsks hUserinfo hFragment hContract
          (escapedBase64_of_encodeQuery hEncode)
      · rw [hSent] at hUrl
        cases hUrl

end Node

end DemurrageToken
