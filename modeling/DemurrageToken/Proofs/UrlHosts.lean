import DemurrageToken.Proofs.DomainNames
import DemurrageToken.Proofs.UrlAuthorities
import DemurrageToken.Url.Site

/-! Hosts in normal form. What a host comes to is written as a host that comes
to the same, and it can be named in a request. -/
namespace DemurrageToken

namespace Percent

/-- Letters and digits are ASCII. -/
theorem isAscii_of_isLetterOrDigit {c : CodePoint} (h : isLetterOrDigit c = true) :
    c.isAscii = true := by
  cases c with
  | surrogate i => cases h
  | scalar char =>
      have hRanges : ((decide (65 ≤ char.val ∧ char.val ≤ 90) ||
          decide (97 ≤ char.val) && decide (char.val ≤ 122)) ||
            decide (48 ≤ char.val) && decide (char.val ≤ 57)) = true := h
      simp only [Bool.or_eq_true, Bool.and_eq_true, decide_eq_true_eq,
        UInt32.le_iff_toNat_le] at hRanges
      have hVal : (CodePoint.scalar char).val = char.val.toNat := rfl
      have hLast : (90 : UInt32).toNat = 90 ∧ (122 : UInt32).toNat = 122 ∧
        (57 : UInt32).toNat = 57 := ⟨rfl, rfl, rfl⟩
      rw [CodePoint.isAscii, decide_eq_true_eq, hVal]
      omega

theorem isAscii_of_isUnreserved {c : CodePoint} (h : isUnreserved c = true) :
    c.isAscii = true := by
  rw [isUnreserved, Bool.or_eq_true] at h
  rcases h with h | h
  · exact isAscii_of_isLetterOrDigit h
  · have hMarks : ∀ d ∈ Text.ofString "-._~", d.isAscii = true := by decide
    exact hMarks c (List.contains_iff_mem.mp h)

end Percent

namespace Url

/-! ### Characters of hosts -/

theorem isAscii_of_keepsInHost {c : CodePoint} (h : keepsInHost c = true) : c.isAscii = true := by
  rw [keepsInHost, Bool.or_eq_true] at h
  rcases h with h | h
  · exact Percent.isAscii_of_isUnreserved h
  · have hMarks : ∀ d ∈ Text.ofString "!$&'()*+,;=\"`\x7b\x7d%|\\", d.isAscii = true := by decide
    exact hMarks c (List.contains_iff_mem.mp h)

instance (c : CodePoint) : Decidable (IsControl c) :=
  inferInstanceAs (Decidable (c.val < 0x20 ∨ c.val = 0x7F))

/-- What stands for itself in a host is no mark of an authority or of what
follows it. -/
theorem keepsInHost_spec {c : CodePoint} (h : keepsInHost c = true) :
    ¬IsControl c ∧ ∀ mark ∈ Text.ofString "/?#@:[", c ≠ mark :=
  CodePoint.of_forall_ascii
    (p := fun c => keepsInHost c = true → ¬IsControl c ∧ ∀ mark ∈ Text.ofString "/?#@:[", c ≠ mark)
    (by decide +kernel) (isAscii_of_keepsInHost h) h

/-- The characters of IPv4 addresses. -/
def isAddressCharacter (c : CodePoint) : Bool := c = .scalar '.' || isAsciiDigit c

/-- Small letters are kept where capitals are, and the characters of addresses
are not letters. -/
theorem lowered_spec {c : CodePoint} (h : keepsInHost c = true) :
    keepsInHost c.lowered = true ∧ c.lowered.lowered = c.lowered ∧
      isAddressCharacter c.lowered = isAddressCharacter c ∧
      (isAddressCharacter c = true → c.lowered = c) :=
  CodePoint.of_forall_ascii
    (p := fun c => keepsInHost c = true → keepsInHost c.lowered = true ∧
      c.lowered.lowered = c.lowered ∧ isAddressCharacter c.lowered = isAddressCharacter c ∧
      (isAddressCharacter c = true → c.lowered = c))
    (by decide +kernel) (isAscii_of_keepsInHost h) h

/-- What looks like an address of the fourth version has its characters and no
others. -/
theorem isAddressCharacter_of_looksLikeIpv4 {host : Text} (h : looksLikeIpv4 host = true)
    {c : CodePoint} (hc : c ∈ host) : isAddressCharacter c = true := by
  simp only [looksLikeIpv4, Bool.and_eq_true, List.all_eq_true] at h
  rw [← Text.join_splitOn (.scalar '.') host] at hc
  rw [isAddressCharacter, Bool.or_eq_true, decide_eq_true_eq]
  rcases Text.mem_join hc with hMark | ⟨part, hPart, hDigit⟩
  · exact .inl (List.mem_singleton.mp hMark)
  · exact .inr ((h.2 part hPart).2 c hDigit)

/-- Case makes no difference to what looks like an IPv4 address. -/
theorem lowerAscii_of_looksLikeIpv4 {host : Text} (hKeeps : ∀ c ∈ host, keepsInHost c = true)
    (h : looksLikeIpv4 host = true ∨ looksLikeIpv4 host.lowerAscii = true) :
    host.lowerAscii = host := by
  rw [Text.lowerAscii_eq_self_iff]
  intro c hc
  obtain ⟨-, -, hSame, hLowered⟩ := lowered_spec (hKeeps c hc)
  rcases h with hLooks | hLooks
  · exact hLowered (isAddressCharacter_of_looksLikeIpv4 hLooks hc)
  · have hAddress := isAddressCharacter_of_looksLikeIpv4 hLooks
      (List.mem_map_of_mem (f := CodePoint.lowered) hc)
    exact hLowered (hSame.symm.trans hAddress)

/-! ### Names -/

/-- A name of a host in normal form: small, of characters that stand for
themselves. What looks like an IPv4 address is one, and what is marked as
standing for a name in other scripts does so. -/
structure NormalName (name : Text) : Prop where
  nonempty : name ≠ []
  keeps : ∀ c ∈ name, keepsInHost c = true
  small : name.lowerAscii = name
  address : looksLikeIpv4 name = true → isIpv4 name = true
  marked : Text.startsWith DomainName.asciiMark name = true →
    ∃ whole, DomainName.read name = .ok whole

/-- A name in ASCII is normal once it is small. -/
theorem normalName_lowerAscii {host : Text} (hNonempty : host ≠ [])
    (hKeeps : ∀ c ∈ host, keepsInHost c = true)
    (hAddress : looksLikeIpv4 host = true → isIpv4 host = true)
    (hMarked : Text.startsWith DomainName.asciiMark host.lowerAscii = true →
      ∃ whole, DomainName.read host.lowerAscii = .ok whole) :
    NormalName host.lowerAscii where
  nonempty := by
    rw [Text.lowerAscii_eq_map, ne_eq, List.map_eq_nil_iff]
    exact hNonempty
  keeps c hc := by
    obtain ⟨d, hd, rfl⟩ := List.mem_map.mp hc
    exact (lowered_spec (hKeeps d hd)).1
  small := Text.lowerAscii_eq_self_iff.mpr fun c hc => by
    obtain ⟨d, hd, rfl⟩ := List.mem_map.mp hc
    exact (lowered_spec (hKeeps d hd)).2.1
  address hLooks := by
    have hSame := lowerAscii_of_looksLikeIpv4 hKeeps (.inr hLooks)
    rw [hSame] at hLooks ⊢
    exact hAddress hLooks
  marked := hMarked

/-- A character of a label is kept in a host, and has no case to lose. -/
theorem labelCharacter_spec {c : CodePoint}
    (h : DomainName.isLabelCharacter c = true ∨ c = .scalar '.') :
    keepsInHost c = true ∧ c.lowered = c := by
  have hAscii : c.isAscii = true := by
    rcases h with h | rfl
    · simp only [DomainName.isLabelCharacter, Bool.or_eq_true, Bool.and_eq_true,
        decide_eq_true_eq] at h
      rw [CodePoint.isAscii, decide_eq_true_eq]
      omega
    · rfl
  exact CodePoint.of_forall_ascii
    (p := fun c => DomainName.isLabelCharacter c = true ∨ c = .scalar '.' →
      keepsInHost c = true ∧ c.lowered = c) (by decide +kernel) hAscii h

/-- A name that is written in ASCII is normal. -/
theorem normalName_of_labelCharacters {name : Text} (hNonempty : name ≠ [])
    (hCharacters : ∀ c ∈ name, DomainName.isLabelCharacter c = true ∨ c = .scalar '.')
    (hAddress : looksLikeIpv4 name = true → isIpv4 name = true)
    (hMarked : Text.startsWith DomainName.asciiMark name = true →
      ∃ whole, DomainName.read name = .ok whole) : NormalName name where
  nonempty := hNonempty
  keeps c hc := (labelCharacter_spec (hCharacters c hc)).1
  small := Text.lowerAscii_eq_self_iff.mpr fun c hc => (labelCharacter_spec (hCharacters c hc)).2
  address := hAddress
  marked := hMarked

/-! ### Addresses in brackets -/

/-- The first group of an address is empty or hexadecimal. -/
theorem areIpv6Groups_head {first : Text} {rest : List Text}
    (h : areIpv6Groups (first :: rest) = true) : first = [] ∨ isHextet first = true := by
  rw [areIpv6Groups] at h
  split at h
  · simp only [List.all_cons, Bool.and_eq_true] at h
    exact .inr h.2.1
  · simp only [isGapped, List.take_succ_cons, Bool.and_eq_true] at h
    obtain ⟨⟨hBefore, -⟩, -⟩ := h
    split at hBefore
    · next hGap => exact .inl (List.cons.inj hGap).1
    · simp only [List.all_cons, Bool.and_eq_true] at hBefore
      exact .inr hBefore.1
  · cases h

/-- An address begins with a gap or with a digit of its first group. -/
theorem isIpv6_head {inner : Text} (h : isIpv6 inner = true) {c : CodePoint}
    (hc : inner.head? = some c) : c = .scalar ':' ∨ isHexDigit c = true := by
  obtain ⟨address, zone, hSpan⟩ : ∃ address zone,
      inner.span (· ≠ .scalar '%') = (address, zone) := ⟨_, _, rfl⟩
  rw [isIpv6, hSpan] at h
  simp only [Bool.and_eq_true, decide_eq_true_eq] at h
  obtain ⟨⟨⟨-, hParts⟩, -⟩, hGroups⟩ := h
  obtain ⟨rfl, -, -⟩ := Text.span_eq_iff.mp hSpan
  cases address with
  | nil => simp at hParts
  | cons d address =>
      obtain rfl : d = c := Option.some.inj hc
      by_cases hColon : d = .scalar ':'
      · exact .inl hColon
      right
      obtain ⟨first, more, hMore⟩ : ∃ first more,
          address.splitOn (.scalar ':') = first :: more :=
        List.exists_cons_of_ne_nil (List.splitOn_ne_nil _ _)
      have hSplit : (d :: address : Text).splitOn (.scalar ':') = (d :: first) :: more := by
        rw [List.splitOn_cons_eq_if_modifyHead, hMore]
        simp [hColon]
      rw [hSplit] at hParts hGroups
      have hLast : more ≠ [] := by
        rintro rfl
        simp at hParts
      -- The first group stays first when an IPv4 address at the end is replaced.
      have hHead : ∀ groups, areIpv6Groups ((d :: first) :: groups) = true →
          isHexDigit d = true := by
        intro groups hValid
        rcases areIpv6Groups_head hValid with hEmpty | hHextet
        · cases hEmpty
        · simp only [isHextet, List.all_cons, Bool.and_eq_true] at hHextet
          exact hHextet.2.1
      rw [List.getLast?_eq_some_getLast (by simp)] at hGroups
      simp only [List.dropLast_cons_of_ne_nil hLast, List.cons_append] at hGroups
      split at hGroups
      · split at hGroups
        · exact hHead _ hGroups
        · exact absurd hGroups (by decide)
      · exact hHead _ hGroups

/-- An address of the sixth version has a colon and does not look like an encoded
name. -/
theorem isIpv6_spec {inner : Text} (h : isIpv6 inner = true) :
    .scalar ':' ∈ inner ∧ Text.startsWith DomainName.asciiMark inner = false := by
  constructor
  · obtain ⟨address, zone, hSpan⟩ : ∃ address zone,
        inner.span (· ≠ .scalar '%') = (address, zone) := ⟨_, _, rfl⟩
    rw [isIpv6, hSpan] at h
    simp only [Bool.and_eq_true, decide_eq_true_eq] at h
    obtain ⟨⟨⟨-, hParts⟩, -⟩, -⟩ := h
    obtain ⟨rfl, -, -⟩ := Text.span_eq_iff.mp hSpan
    by_contra hColon
    rw [List.mem_append, not_or] at hColon
    rw [List.splitOn_eq_singleton hColon.1] at hParts
    simp at hParts
  · rw [← Bool.not_eq_true]
    intro hMarked
    obtain ⟨rest, hRest⟩ := Option.isSome_iff_exists.mp hMarked
    rw [Text.dropStart?_eq_some_iff] at hRest
    have hFirst : inner.head? = some (.scalar 'x') := by
      rw [hRest]
      rfl
    exact absurd (isIpv6_head h hFirst) (by decide)

/-- The characters of an IPv6 address and its zone. -/
def keepsInBrackets (c : CodePoint) : Bool :=
  Percent.isUnreserved c || c = .scalar ':' || c = .scalar '%'

/-- What is kept in brackets is ASCII, no control character and no mark that ends a
host. -/
theorem keepsInBrackets_spec {c : CodePoint} (h : keepsInBrackets c = true) :
    c.isAscii = true ∧ ¬IsControl c ∧ ∀ mark ∈ Text.ofString "/?#@", c ≠ mark := by
  simp only [keepsInBrackets, Bool.or_eq_true, decide_eq_true_eq] at h
  rcases h with (hUnreserved | rfl) | rfl
  · have hKept : keepsInHost c = true := by rw [keepsInHost, hUnreserved, Bool.true_or]
    obtain ⟨hControl, hMarks⟩ := keepsInHost_spec hKept
    have hFewer : ∀ mark ∈ Text.ofString "/?#@", mark ∈ Text.ofString "/?#@:[" := by decide
    exact ⟨isAscii_of_keepsInHost hKept, hControl,
      fun mark hMark => hMarks mark (hFewer mark hMark)⟩
  · decide
  · decide

theorem mem_brackets {inner : Text} {c : CodePoint} (hc : c ∈ ("[" ++ inner ++ "]" : Text)) :
    c = .scalar '[' ∨ c ∈ inner ∨ c = .scalar ']' := by
  rcases List.mem_append.mp hc with hc | hc
  · rcases List.mem_append.mp hc with hc | hc
    · exact .inl (List.mem_singleton.mp hc)
    · exact .inr (.inl hc)
  · exact .inr (.inr (List.mem_singleton.mp hc))

/-! ### Hosts -/

/-- A host of a URL: a name in ASCII, a name in other scripts that has a form
in ASCII, or an IPv6 address in brackets, with or without a zone. A name that
looks like an IPv4 address has to be one, and a name that is marked as standing
for another one has to do so. -/
inductive IsHost : Text → Prop where
  | ascii {host : Text} (hNonempty : host ≠ []) (hKeeps : ∀ c ∈ host, keepsInHost c = true)
      (hAddress : looksLikeIpv4 host = true → isIpv4 host = true)
      (hMarked : Text.startsWith DomainName.asciiMark host.lowerAscii = true →
        ∃ whole, DomainName.read host.lowerAscii = .ok whole) : IsHost host
  | international {host name : Text} (hBeyond : ∃ c ∈ host, c.isAscii = false)
      (hKeeps : ∀ c ∈ host, c.isAscii = true → keepsInHost c = true)
      (hWrite : DomainName.write host.lower = .ok name)
      (hAddress : looksLikeIpv4 name = true → isIpv4 name = true)
      (hMarked : Text.startsWith DomainName.asciiMark name = true →
        ∃ whole, DomainName.read name = .ok whole) : IsHost host
  | bracketed {inner : Text} (hInner : isIpv6 inner = true)
      (hKeeps : ∀ c ∈ inner, keepsInBrackets c = true) : IsHost ("[" ++ inner ++ "]")

theorem notOpen_of_keeps {host : Text}
    (hKeeps : ∀ c ∈ host, c.isAscii = true → keepsInHost c = true) :
    ¬(host.head? = some (.scalar '[') ∧ host.getLast? = some (.scalar ']')) := by
  rintro ⟨hHead, -⟩
  have hKept := hKeeps _ (List.mem_of_mem_head? hHead) (by decide)
  exact (keepsInHost_spec hKept).2 _ (by decide) rfl

/-- A host in ASCII is normal in small letters, if it is an address wherever it looks
like one. -/
theorem normalHost_of_ascii {host : Text} (hNonempty : host ≠ [])
    (hKeeps : ∀ c ∈ host, keepsInHost c = true)
    (hAddress : looksLikeIpv4 host = true → isIpv4 host = true) :
    normalHost host = .ok host.lowerAscii := by
  have hAscii : host.all CodePoint.isAscii = true :=
    List.all_eq_true.mpr fun c hc => isAscii_of_keepsInHost (hKeeps c hc)
  have hLowered : ∀ c ∈ host.lowerAscii, keepsInHost c = true := by
    intro c hc
    obtain ⟨d, hd, rfl⟩ := List.mem_map.mp hc
    exact (lowered_spec (hKeeps d hd)).1
  rw [normalHost, if_neg hNonempty]
  by_cases hLooks : looksLikeIpv4 host = true
  · rw [if_pos hLooks, if_pos (hAddress hLooks), lowerAscii_of_looksLikeIpv4 hKeeps (.inl hLooks)]
  · rw [if_neg hLooks, if_neg (notOpen_of_keeps fun c hc _ => hKeeps c hc), if_pos hAscii,
      Percent.encode_of_keeps hLowered]

theorem NormalName.normalHost_eq {name : Text} (h : NormalName name) :
    normalHost name = .ok name := by
  rw [normalHost_of_ascii h.nonempty h.keeps h.address, h.small]

/-- A host beyond ASCII comes to the name that it is written as. -/
theorem normalHost_of_international {host name : Text} (hBeyond : ∃ c ∈ host, c.isAscii = false)
    (hKeeps : ∀ c ∈ host, c.isAscii = true → keepsInHost c = true)
    (hWrite : DomainName.write host.lower = .ok name) :
    normalHost host = .ok name := by
  obtain ⟨c, hc, hBeyond⟩ := hBeyond
  have hLooks : ¬looksLikeIpv4 host = true := by
    intro hLooks
    have hAddress := isAddressCharacter_of_looksLikeIpv4 hLooks hc
    rw [isAddressCharacter, Bool.or_eq_true, decide_eq_true_eq] at hAddress
    rcases hAddress with rfl | hDigit
    · cases hBeyond
    · simp only [isAsciiDigit, Bool.and_eq_true, decide_eq_true_eq] at hDigit
      rw [CodePoint.isAscii, decide_eq_false_iff_not] at hBeyond
      omega
  have hAscii : ¬host.all CodePoint.isAscii = true := by
    intro hAll
    rw [List.all_eq_true.mp hAll c hc] at hBeyond
    cases hBeyond
  rw [normalHost, if_neg (List.ne_nil_of_mem hc), if_neg hLooks, if_neg (notOpen_of_keeps hKeeps),
    if_neg hAscii, hWrite]
  rfl

/-- An address loses its brackets. -/
theorem normalHost_of_brackets {inner : Text} (h : isIpv6 inner = true) :
    normalHost ("[" ++ inner ++ "]") = .ok inner := by
  have hText : ("[" ++ inner ++ "]" : Text) = .scalar '[' :: (inner ++ [.scalar ']']) := by
    simp [Text.ofString, Text.ofChars]
  have hLooks : ¬looksLikeIpv4 (.scalar '[' :: (inner ++ [.scalar ']'])) = true := by
    intro hLooks
    exact absurd (isAddressCharacter_of_looksLikeIpv4 hLooks (List.mem_cons_self ..)) (by decide)
  have hBrackets : (.scalar '[' :: (inner ++ [.scalar ']']) : Text).head? = some (.scalar '[') ∧
      (.scalar '[' :: (inner ++ [.scalar ']']) : Text).getLast? = some (.scalar ']') := by
    rw [← List.cons_append, List.getLast?_concat]
    exact ⟨rfl, rfl⟩
  have hInner : ((.scalar '[' :: (inner ++ [.scalar ']']) : Text).drop 1).dropLast = inner := by
    rw [List.drop_one, List.tail_cons, List.dropLast_concat]
  rw [hText, normalHost, if_neg (by simp), if_neg hLooks, if_pos hBrackets]
  simp only [hInner, h, if_true]

/-! ### What hosts come to -/

/-- The host of an authority, as it is written for a host in normal form. -/
def hostPart (host : Text) : Text :=
  if host.contains (.scalar ':') then "[" ++ host ++ "]" else host

/-- A text is the host of authorities, and it comes to a host in normal form. -/
structure ComesTo (given host : Text) : Prop where
  isAuthority : IsAuthority given
  split {part : Text} : IsPortPart part → splitAuthority (given ++ part) = ([], given, part.drop 1)
  normal : normalHost given = .ok host

/-- Code points beyond ASCII mark nothing. -/
theorem comesTo_of_name {given host : Text}
    (hKeeps : ∀ c ∈ given, c.isAscii = true → keepsInHost c = true)
    (hNormal : normalHost given = .ok host) : ComesTo given host := by
  have hMarks : ∀ c ∈ given, ¬IsControl c ∧ ∀ mark ∈ Text.ofString "/?#@:[", c ≠ mark := by
    intro c hc
    cases hAscii : c.isAscii with
    | true => exact keepsInHost_spec (hKeeps c hc hAscii)
    | false =>
        have hMarksAscii : ∀ mark ∈ Text.ofString "/?#@:[", mark.isAscii = true := by decide
        refine ⟨?_, ?_⟩
        · rw [CodePoint.isAscii, decide_eq_false_iff_not] at hAscii
          rw [IsControl]
          omega
        · rintro mark hMark rfl
          rw [hMarksAscii c hMark] at hAscii
          cases hAscii
  refine ⟨fun c hc => ?_, fun hPart => splitAuthority_of_name hPart fun c hc => ?_, hNormal⟩
  · obtain ⟨hControl, hMark⟩ := hMarks c hc
    exact ⟨hControl, hMark _ (by decide), hMark _ (by decide), hMark _ (by decide)⟩
  · obtain ⟨-, hMark⟩ := hMarks c hc
    exact ⟨hMark _ (by decide), hMark _ (by decide), hMark _ (by decide)⟩

/-- An address in brackets comes to the address. -/
theorem comesTo_of_brackets {inner : Text} (hInner : isIpv6 inner = true)
    (hKeeps : ∀ c ∈ inner, keepsInBrackets c = true) :
    ComesTo ("[" ++ inner ++ "]") inner := by
  refine ⟨fun c hc => ?_, fun hPart => splitAuthority_of_brackets hPart fun hMark => ?_,
    normalHost_of_brackets hInner⟩
  · rcases mem_brackets hc with rfl | hc | rfl
    · decide
    · obtain ⟨-, hControl, hMarks⟩ := keepsInBrackets_spec (hKeeps c hc)
      exact ⟨hControl, hMarks _ (by decide), hMarks _ (by decide), hMarks _ (by decide)⟩
    · decide
  · exact (keepsInBrackets_spec (hKeeps _ hMark)).2.2 _ (by decide) rfl

/-- A host is settled if the way in which it is written comes to it again, and
if it can be named in a request. -/
structure HostSettles (given host : Text) : Prop where
  reads : ComesTo given host
  rereads : ComesTo (hostPart host) host
  nonempty : host ≠ []
  ascii : ∀ c ∈ hostPart host, c.isAscii = true
  length : (hostPart host).length ≤ max given.length DomainName.longestName
  marked : Text.startsWith DomainName.asciiMark host = true →
    ∃ whole, DomainName.read host = .ok whole

/-- A host that comes to a normal name settles there. -/
theorem NormalName.settles {given name : Text} (h : NormalName name) (hGiven : ComesTo given name)
    (hLength : name.length ≤ max given.length DomainName.longestName) : HostSettles given name := by
  have hColon : name.contains (.scalar ':') = false := by
    rw [← Bool.not_eq_true, List.contains_iff_mem]
    exact fun hMark => (keepsInHost_spec (h.keeps _ hMark)).2 _ (by decide) rfl
  have hPart : hostPart name = name := by
    rw [hostPart, hColon]
    rfl
  refine ⟨hGiven, ?_, h.nonempty, ?_, ?_, h.marked⟩
  · rw [hPart]
    exact comesTo_of_name (fun c hc _ => h.keeps c hc) h.normalHost_eq
  · rw [hPart]
    exact fun c hc => isAscii_of_keepsInHost (h.keeps c hc)
  · rwa [hPart]

/-- Every host comes to a host that is settled. -/
theorem IsHost.settles {given : Text} (h : IsHost given) : ∃ host, HostSettles given host := by
  cases h with
  | ascii hNonempty hKeeps hAddress hMarked =>
      have hName := normalName_lowerAscii hNonempty hKeeps hAddress hMarked
      refine ⟨given.lowerAscii, hName.settles
        (comesTo_of_name (fun c hc _ => hKeeps c hc)
          (normalHost_of_ascii hNonempty hKeeps hAddress)) ?_⟩
      rw [Text.lowerAscii_eq_map, List.length_map]
      exact Nat.le_max_left _ _
  | @international _ name hBeyond hKeeps hWrite hAddress hMarked =>
      obtain ⟨hNonempty, hLength, hCharacters⟩ :=
        DomainName.write_eq_ok (fun c hc => Text.lowered_of_mem_lower hc) hWrite
      have hName := normalName_of_labelCharacters hNonempty hCharacters hAddress hMarked
      exact ⟨name, hName.settles
        (comesTo_of_name hKeeps (normalHost_of_international hBeyond hKeeps hWrite))
        (hLength.trans (Nat.le_max_right _ _))⟩
  | @bracketed inner hInner hKeeps =>
      obtain ⟨hColon, hUnmarked⟩ := isIpv6_spec hInner
      have hPart : hostPart inner = "[" ++ inner ++ "]" := by
        rw [hostPart, List.contains_iff_mem.mpr hColon]
        rfl
      have hComes := comesTo_of_brackets hInner hKeeps
      refine ⟨inner, hComes, ?_, List.ne_nil_of_mem hColon, ?_, ?_, ?_⟩
      · rwa [hPart]
      · rw [hPart]
        intro c hc
        rcases mem_brackets hc with rfl | hc | rfl
        · rfl
        · exact (keepsInBrackets_spec (hKeeps c hc)).1
        · rfl
      · rw [hPart]
        exact Nat.le_max_left _ _
      · intro hMarked
        rw [hUnmarked] at hMarked
        cases hMarked

theorem IsHost.isAuthority {given : Text} (h : IsHost given) : IsAuthority given := by
  obtain ⟨host, hHost⟩ := h.settles
  exact hHost.reads.isAuthority

theorem IsHost.ne_nil {given : Text} (h : IsHost given) : given ≠ [] := by
  obtain ⟨host, hHost⟩ := h.settles
  rintro rfl
  exact hHost.nonempty (Except.ok.inj hHost.reads.normal).symm

/-! ### Sites -/

theorem authority_eq {u : Url} (h : u.userinfo = []) :
    u.authority = hostPart u.host ++ portPart u.port := by
  rw [authority, if_pos h]
  rfl

/-- A port is made of characters that may stand in an authority. -/
theorem IsPortPart.isAuthority {part : Text} (h : IsPortPart part) : IsAuthority part := by
  intro c hc
  rcases h.mem hc with rfl | hDigit
  · decide
  · refine ⟨?_, ?_, ?_, ?_⟩
    · rw [IsControl]
      omega
    · rintro rfl
      exact absurd hDigit (by decide)
    · rintro rfl
      exact absurd hDigit (by decide)
    · rintro rfl
      exact absurd hDigit (by decide)

/-- A port that is read has few enough digits. -/
theorem IsPortPart.length_le {part : Text} (h : IsPortPart part) :
    part.length ≤ Text.integerDigitLimit + 1 := by
  cases h with
  | absent => exact Nat.zero_le _
  | digits hDigits hLength =>
      rw [List.length_cons, Text.ofChars, List.length_map]
      exact Nat.succ_le_succ hLength

theorem IsAuthority.append {t u : Text} (ht : IsAuthority t) (hu : IsAuthority u) :
    IsAuthority (t ++ u) := fun c hc => (List.mem_append.mp hc).elim (ht c) (hu c)

theorem IsAuthority.controlFree {t : Text} (h : IsAuthority t) : control? t = none :=
  control?_eq_none_iff.mpr fun c hc => (h c hc).1

/-- The search for text beyond ASCII finds none only where there is none. -/
theorem runBeyondAscii?_eq_none_iff {t : Text} {position : Nat} :
    Text.runBeyondAscii? position t = none ↔ ∀ c ∈ t, c.isAscii = true := by
  induction t generalizing position with
  | nil => simp [Text.runBeyondAscii?]
  | cons c t ih =>
      rw [Text.runBeyondAscii?, List.forall_mem_cons]
      split
      · next hc => simp only [ih, hc, true_and]
      · next hc => simp [hc]

/-- A host that has settled can be named in a request. -/
theorem checkSite_of_settles {u : Url} {given : Text} (hHost : HostSettles given u.host)
    (hPort : IsPortPart (portPart u.port)) : u.checkSite = .ok () := by
  have hReadable : ∃ whole, u.readableHost = .ok whole := by
    rw [readableHost]
    split
    · next hMarked => exact hHost.marked hMarked
    · exact ⟨_, rfl⟩
  have hAscii : ∀ c ∈ u.site, c.isAscii = true := by
    have hSite : u.site = hostPart u.host ++ portPart u.port := authority_eq rfl
    rw [hSite]
    intro c hc
    rcases List.mem_append.mp hc with hc | hc
    · exact hHost.ascii c hc
    · rcases hPort.mem hc with rfl | hDigit
      · rfl
      · rw [CodePoint.isAscii, decide_eq_true_eq]
        omega
  obtain ⟨whole, hWhole⟩ := hReadable
  rw [checkSite, hWhole, Except.mapError_ok, Except.ok_bind, runBeyondAscii?_eq_none_iff.mpr hAscii]

/-- An authority of a host and a port settles, and its site can be named. -/
theorem exists_settles {scheme host part : Text} (hScheme : IsWebScheme scheme)
    (hHost : IsHost host) (hPart : IsPortPart part)
    (hLength : (host ++ part).length ≤ lengthLimit) :
    ∃ u : Url, u.scheme = scheme ∧ u.fragment = none ∧ Settles (host ++ part) u ∧
      u.checkSite = .ok () := by
  obtain ⟨name, hName⟩ := hHost.settles
  obtain ⟨port, hPort, hOwn, hOwnPort, hOwnLength⟩ := hPart.settles scheme
  let u : Url := ⟨scheme, [], name, port, [], none, none⟩
  have hAuthority : u.authority = hostPart name ++ portPart port := authority_eq rfl
  refine ⟨u, rfl, rfl, ?_, checkSite_of_settles hName hOwn⟩
  refine ⟨?_, rfl, hName.nonempty, ?_, ?_, ?_, ?_⟩
  · exact hScheme.normal.1
  · exact ⟨host, part.drop 1, hName.reads.split hPart, hName.reads.normal, hPort⟩
  · rw [hAuthority]
    exact ⟨hostPart name, _, hName.rereads.split hOwn, hName.rereads.normal, hOwnPort⟩
  · rw [hAuthority]
    exact ⟨hScheme.isAuthority.controlFree,
      (hName.rereads.isAuthority.append hOwn.isAuthority).controlFree⟩
  · have hHostLength := hName.length
    have hPartLength := hPart.length_le
    rw [hAuthority]
    rw [List.length_append] at hLength ⊢
    simp only [lengthLimit, DomainName.longestName, Text.integerDigitLimit] at *
    exact ⟨hScheme.normal.2.trans (by decide), by omega⟩

end Url

end DemurrageToken
