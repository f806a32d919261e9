import DemurrageToken.Node.Client
import DemurrageToken.Proofs.PayloadRoundTrip
import DemurrageToken.Proofs.UrlHosts

/-! The request of a smart query. Whatever the base and the query are, the path
that is sent holds the query in a form that reads back as the same query. -/
namespace DemurrageToken.Node

/-! ### The query in a path -/

/-- Base64 as it stands in a path: letters, digits, and the escapes of plus,
slash and padding. -/
inductive EscapedBase64 : Text → Prop where
  | nil : EscapedBase64 []
  | character {c : Char} {rest : Text} (hc : c.isAlphanum = true) (hRest : EscapedBase64 rest) :
      EscapedBase64 (.scalar c :: rest)
  | escape {mark rest : Text}
      (hMark : mark = Text.ofString "%2B" ∨ mark = Text.ofString "%2F" ∨ mark = Text.ofString "%3D")
      (hRest : EscapedBase64 rest) : EscapedBase64 (mark ++ rest)

theorem isUnreserved_alphanum {c : Char} (h : c.isAlphanum = true) :
    Percent.isUnreserved (.scalar c) = true := by
  rw [Percent.isUnreserved, Percent.isLetterOrDigit, h, Bool.true_or]

/-- Of base64 three characters are escaped, and the others stand for themselves. -/
theorem escapedBase64_encode {t : Text} (h : ∀ c ∈ t, ∃ char : Char, c = .scalar char ∧
    (char.isAlphanum = true ∨ char = '+' ∨ char = '/' ∨ char = '=')) :
    EscapedBase64 (Percent.encode Percent.isUnreserved t) := by
  induction t with
  | nil => exact .nil
  | cons c t ih =>
      have hRest := ih fun d hd => h d (List.mem_cons_of_mem _ hd)
      have hSplit := Percent.encode_append Percent.isUnreserved [c] t
      rw [List.singleton_append] at hSplit
      rw [hSplit]
      obtain ⟨char, rfl, hCases⟩ := h c (List.mem_cons_self ..)
      rcases hCases with hAlphanum | rfl | rfl | rfl
      · rw [Percent.encode_of_keeps (by simpa using isUnreserved_alphanum hAlphanum)]
        exact .character hAlphanum hRest
      · exact .escape (.inl (by decide)) hRest
      · exact .escape (.inr (.inl (by decide))) hRest
      · exact .escape (.inr (.inr (by decide))) hRest

/-- The characters that paths are made of here, full stops aside. -/
def isPathCharacter (c : CodePoint) : Bool :=
  Percent.isLetterOrDigit c || (Text.ofString "-_~%/").contains c

/-- What may stand in the path of a query is kept there, and is no dot that could
climb out of it. -/
theorem isPathCharacter_spec {c : CodePoint} (h : isPathCharacter c = true) :
    Url.keepsInPath c = true ∧ c ≠ .scalar '.' := by
  have hAscii : c.isAscii = true := by
    rw [isPathCharacter, Bool.or_eq_true] at h
    rcases h with h | h
    · exact Percent.isAscii_of_isLetterOrDigit h
    · have hMarks : ∀ d ∈ Text.ofString "-_~%/", d.isAscii = true := by decide
      exact hMarks c (List.contains_iff_mem.mp h)
  exact CodePoint.of_forall_ascii
    (p := fun c => isPathCharacter c = true → Url.keepsInPath c = true ∧ c ≠ .scalar '.')
    (by decide +kernel) hAscii h

/-- Escaped base64 may stand in the path of a query, escapes included. -/
theorem EscapedBase64.isPathCharacter {e : Text} (h : EscapedBase64 e) :
    ∀ c ∈ e, isPathCharacter c = true := by
  induction h with
  | nil => exact fun c hc => absurd hc (List.not_mem_nil)
  | @character c rest hc hRest ih =>
      intro d hd
      rcases List.mem_cons.mp hd with rfl | hd
      · rw [Node.isPathCharacter, Percent.isLetterOrDigit, hc, Bool.true_or]
      · exact ih d hd
  | @escape mark rest hMark hRest ih =>
      intro d hd
      rcases List.mem_append.mp hd with hd | hd
      · have hMarks : ∀ mark ∈ [Text.ofString "%2B", Text.ofString "%2F", Text.ofString "%3D"],
            ∀ c ∈ mark, Node.isPathCharacter c = true := by decide
        refine hMarks mark ?_ d hd
        simpa using hMark
      · exact ih d hd

/-- The form of a query in a path decodes once to its binary form. -/
theorem decode_of_encodeQuery {query : Json} {e : Text} (h : encodeQuery query = .ok e) :
    ∃ b, Payload.embed query = .ok b ∧ Utf8.decode (Percent.decode e) = .ok b := by
  obtain ⟨b, hEmbed, rfl⟩ := Except.map_eq_ok_iff.mp h
  obtain ⟨-, -, rfl⟩ := Payload.embed_eq_ok_iff.mp hEmbed
  have hKeeps : ∀ c, Percent.isUnreserved c = true → c.isAscii = true ∧ c ≠ .scalar '%' := by
    intro c hc
    refine ⟨Percent.isAscii_of_isUnreserved hc, ?_⟩
    rintro rfl
    exact absurd hc (by decide)
  refine ⟨_, hEmbed, ?_⟩
  rw [Percent.decode_encode hKeeps, Utf8.decode_eq_ok_iff]
  exact ⟨.of_all_isAscii (Base64.encode_isAscii _), rfl⟩

theorem escapedBase64_of_encodeQuery {query : Json} {e : Text} (h : encodeQuery query = .ok e) :
    EscapedBase64 e := by
  obtain ⟨b, hEmbed, rfl⟩ := Except.map_eq_ok_iff.mp h
  obtain ⟨-, -, rfl⟩ := Payload.embed_eq_ok_iff.mp hEmbed
  exact escapedBase64_encode fun c hc => Base64.mem_encode_cases hc

/-- A portable query has a form in a path, which decodes to its binary form. -/
theorem encodeQuery_of_portable {query : Json} (hQuery : query.Portable) :
    ∃ e b, encodeQuery query = .ok e ∧ EscapedBase64 e ∧ Payload.embed query = .ok b ∧
      Utf8.decode (Percent.decode e) = .ok b ∧ Payload.extract b = .ok query := by
  have hEmbed := Payload.embed_of_portable hQuery
  have hEncode : encodeQuery query = .ok (Percent.encode Percent.isUnreserved
      (Base64.encode (query.canonical.flatMap Utf8.encodeCodePoint))) := by
    rw [encodeQuery, hEmbed]
    rfl
  obtain ⟨b, hBinary, hDecode⟩ := decode_of_encodeQuery hEncode
  obtain rfl := Except.ok.inj (hEmbed.symm.trans hBinary)
  exact ⟨_, _, hEncode, escapedBase64_of_encodeQuery hEncode, hEmbed, hDecode,
    Payload.extract_of_portable hQuery⟩

/-! ### Paths -/

/-- The path of a smart query, for a query in the form that it has there. -/
def smartPath (contract encoded : Text) : Text :=
  "/cosmwasm/wasm/v1/contract/" ++ contract ++ "/smart/" ++ encoded

/-- The path of a base: its segments, each after a slash. -/
def frontPath (segments : List Text) : Text :=
  segments.flatMap fun segment => .scalar '/' :: segment

/-- Letters, digits and the marks that a segment of a base may hold. -/
def isSegmentCharacter (c : CodePoint) : Bool :=
  Percent.isLetterOrDigit c || (Text.ofString "-_~").contains c

/-- What may stand in a segment may stand in a path, and does not end the segment. -/
theorem isPathCharacter_of_isSegmentCharacter {c : CodePoint} (h : isSegmentCharacter c = true) :
    isPathCharacter c = true ∧ c ≠ .scalar '/' := by
  rw [isSegmentCharacter, Bool.or_eq_true] at h
  constructor
  · rw [isPathCharacter, Bool.or_eq_true]
    have hMarks : ∀ d ∈ Text.ofString "-_~", d ∈ Text.ofString "-_~%/" := by decide
    exact h.imp id fun hMark =>
      List.contains_iff_mem.mpr (hMarks c (List.contains_iff_mem.mp hMark))
  · rintro rfl
    exact absurd h (by decide)

/-- A path of such characters is taken as it is. -/
theorem plainPath_of_isPathCharacter {rest : Text}
    (h : ∀ c ∈ rest, isPathCharacter c = true) : Url.PlainPath (.scalar '/' :: rest) where
  rooted := .inr rfl
  keeps c hc := by
    rcases List.mem_cons.mp hc with rfl | hc
    · exact isPathCharacter_spec (by decide)
    · exact isPathCharacter_spec (h c hc)

theorem plainPath_frontPath {segments : List Text}
    (h : ∀ segment ∈ segments, ∀ c ∈ segment, isSegmentCharacter c = true) :
    Url.PlainPath (frontPath segments) := by
  induction segments with
  | nil => exact ⟨.inl rfl, fun c hc => absurd hc List.not_mem_nil⟩
  | cons segment segments ih =>
      have hFirst : Url.PlainPath (.scalar '/' :: segment) :=
        plainPath_of_isPathCharacter fun c hc =>
          (isPathCharacter_of_isSegmentCharacter (h segment (List.mem_cons_self ..) c hc)).1
      rw [frontPath, List.flatMap_cons]
      exact hFirst.append (ih fun other hOther => h other (List.mem_cons_of_mem _ hOther))

/-- The path of a base does not end in a slash if its last segment is not
empty. -/
theorem getLast?_frontPath {segments : List Text}
    (h : ∀ segment ∈ segments, ∀ c ∈ segment, isSegmentCharacter c = true)
    (hLast : segments.getLast? ≠ some []) :
    (frontPath segments).getLast? ≠ some (.scalar '/') := by
  rcases List.eq_nil_or_concat' segments with rfl | ⟨before, last, rfl⟩
  · simp [frontPath]
  · have hNonempty : last ≠ [] := by
      rintro rfl
      simp at hLast
    rw [frontPath, List.flatMap_append, List.flatMap_singleton,
      List.getLast?_append_of_ne_nil _ (by simp), List.getLast?_cons,
      List.getLast?_eq_some_getLast hNonempty, Option.getD_some]
    intro hSlash
    have hMem := List.getLast_mem hNonempty
    rw [Option.some.inj hSlash] at hMem
    exact (isPathCharacter_of_isSegmentCharacter (h last (by simp) _ hMem)).2 rfl

theorem smartPath_rooted (contract encoded : Text) : ∃ rest,
    smartPath contract encoded = .scalar '/' :: rest ∧ rest.head? ≠ some (.scalar '/') :=
  ⟨Text.ofString "cosmwasm/wasm/v1/contract/" ++ contract ++ Text.ofString "/smart/" ++ encoded,
    rfl, by simp [Text.ofString, Text.ofChars]⟩

/-- The path of a query on a plain contract is taken as it is. -/
theorem plainPath_smartPath {contract encoded : Text}
    (hContract : ∀ c ∈ contract, Percent.isLetterOrDigit c = true)
    (hEncoded : EscapedBase64 encoded) : Url.PlainPath (smartPath contract encoded) := by
  have hLiteral : ∀ c ∈ Text.ofString "cosmwasm/wasm/v1/contract/", isPathCharacter c = true := by
    decide
  have hSmart : ∀ c ∈ Text.ofString "/smart/", isPathCharacter c = true := by decide
  refine @plainPath_of_isPathCharacter (Text.ofString "cosmwasm/wasm/v1/contract/" ++ contract ++
    Text.ofString "/smart/" ++ encoded) fun c hc => ?_
  simp only [List.mem_append] at hc
  rcases hc with ((hc | hc) | hc) | hc
  · exact hLiteral c hc
  · rw [isPathCharacter, hContract c hc, Bool.true_or]
  · exact hSmart c hc
  · exact hEncoded.isPathCharacter c hc

/-! ### Bases -/

/-- However many marks stand at the end, all of them are dropped. -/
theorem dropEndWhile_append_replicate {t : Text} {mark : CodePoint} (h : t.getLast? ≠ some mark)
    (count : Nat) : Text.dropEndWhile (· = mark) (t ++ List.replicate count mark) = t := by
  have hMarks : ∀ c ∈ List.replicate count mark, decide (c = mark) = true :=
    fun c hc => decide_eq_true (List.eq_of_mem_replicate hc)
  have hKept := @Text.dropEndWhile_eq_self (· = mark) t
    fun c hc => decide_eq_false fun hMark => h (hMark ▸ hc)
  rw [Text.dropEndWhile, List.reverse_append, List.reverse_replicate,
    List.dropWhile_append_of_pos hMarks]
  exact hKept

/-- The text of a base, without slashes at its end. -/
def baseText (scheme host part : Text) (segments : List Text) : Text :=
  scheme ++ "://" ++ (host ++ part) ++ frontPath segments

/-- All slashes that follow a base go. -/
theorem baseUrlText_slashes {scheme host part : Text} {segments : List Text}
    (hScheme : Url.IsWebScheme scheme) (hHost : Url.IsHost host) (hPart : Url.IsPortPart part)
    (hSegments : ∀ segment ∈ segments, ∀ c ∈ segment, isSegmentCharacter c = true)
    (hLast : segments.getLast? ≠ some []) (environment : Environment) (slashes : Nat) :
    baseUrlText environment (some (baseText scheme host part segments ++
      List.replicate slashes (.scalar '/'))) = baseText scheme host part segments := by
  have hEnd : (baseText scheme host part segments).getLast? ≠ some (.scalar '/') := by
    rw [baseText]
    by_cases hFront : frontPath segments = []
    · have hAuthority := hHost.isAuthority.append hPart.isAuthority
      have hNonempty : host ++ part ≠ [] := List.append_ne_nil_of_left_ne_nil hHost.ne_nil _
      rw [hFront, List.append_nil, List.getLast?_append_of_ne_nil _ hNonempty]
      intro hSlash
      exact (hAuthority _ (List.mem_of_getLast? hSlash)).2.1 rfl
    · rw [List.getLast?_append_of_ne_nil _ hFront]
      exact getLast?_frontPath hSegments hLast
  obtain ⟨c, rest, hText⟩ : ∃ c rest, baseText scheme host part segments ++
      List.replicate slashes (.scalar '/') = c :: rest := by
    apply List.exists_cons_of_ne_nil
    rcases hScheme with rfl | rfl
    · simp [baseText, Text.ofString, Text.ofChars]
    · simp [baseText, Text.ofString, Text.ofChars]
  rw [hText, baseUrlText, ← hText]
  exact dropEndWhile_append_replicate hEnd slashes

/-! ### Requests -/

theorem address_eq {client : Client} {path : Text} {url : Url}
    (hBelow : client.base.below path = .ok url) (hSite : url.checkSite = .ok ()) :
    client.address path = .ok url := by
  rw [Client.address, hBelow, Except.mapError_ok, Except.ok_bind, hSite]
  rfl

theorem sent_of_address {client : Client} {contract path : Text} {query : Json} {url : Url}
    (hPath : queryPath contract query = .ok path) (hAddress : client.address path = .ok url)
    (hOpen : client.closed = false) (reply : Except TransportFault Response) :
    (client.query contract query reply).sent = [url] := by
  simp only [Client.query, hPath, Outcome.announce, hAddress, hOpen, Bool.false_eq_true, if_false]

/-- Whatever the base and however many slashes follow it, a query is sent as
one request to its site, and the path of the request is that of the base with
that of the query after it. The last part of the path decodes once to the
binary form of the query, from which the query is read back. -/
theorem query_sent {scheme host part contract : Text} {segments : List Text} {query : Json}
    (hScheme : Url.IsWebScheme scheme) (hHost : Url.IsHost host) (hPart : Url.IsPortPart part)
    (hSegments : ∀ segment ∈ segments, ∀ c ∈ segment, isSegmentCharacter c = true)
    (hLast : segments.getLast? ≠ some [])
    (hContract : ∀ c ∈ contract, Percent.isLetterOrDigit c = true) (hQuery : query.Portable)
    (hBase : (baseText scheme host part segments).length ≤ Url.lengthLimit)
    (hPath : ∀ e, encodeQuery query = .ok e →
      (frontPath segments ++ smartPath contract e).length ≤ Url.lengthLimit) :
    ∃ url e b,
      (∀ environment timeout slashes, ∃ client,
        Client.connect environment (some (baseText scheme host part segments ++
          List.replicate slashes (.scalar '/'))) timeout = .ok client ∧
        ∀ reply, (client.query contract query reply).sent = [url]) ∧
      url.scheme = scheme ∧ Url.Names scheme (host ++ part) url.host url.port ∧
      url.rawPath = frontPath segments ++ smartPath contract e ∧ url.query = none ∧
      encodeQuery query = .ok e ∧ EscapedBase64 e ∧ Payload.embed query = .ok b ∧
      Utf8.decode (Percent.decode e) = .ok b ∧ Payload.extract b = .ok query := by
  obtain ⟨e, b, hEncode, hEscaped, hEmbed, hDecode, hExtract⟩ := encodeQuery_of_portable hQuery
  have hLength := hPath e hEncode
  have hFront := plainPath_frontPath hSegments
  have hSmart := plainPath_smartPath hContract hEscaped
  have hAuthorityLength : (host ++ part).length ≤ Url.lengthLimit := by
    rw [baseText, List.length_append, List.length_append] at hBase
    omega
  have hSlash : (frontPath segments).length < Url.lengthLimit := by
    have hPositive : 0 < (smartPath contract e).length := by
      simp [smartPath, Text.ofString, Text.ofChars]
    rw [List.length_append] at hLength
    omega
  obtain ⟨u, rfl, hFragment, hSettles, hSite⟩ :=
    Url.exists_settles hScheme hHost hPart hAuthorityLength
  obtain ⟨path, hRead, hRaw⟩ := Url.readBase_of_settles hSettles hScheme
    (hHost.isAuthority.append hPart.isAuthority) hFront (getLast?_frontPath hSegments hLast)
    hBase hSlash
  obtain ⟨rest, hRest, hSingle⟩ := smartPath_rooted contract e
  have hBelow : (u.atPath path).below (smartPath contract e) =
      .ok (u.atPath (frontPath segments ++ smartPath contract e)) := by
    rw [hRest] at hSmart hLength ⊢
    exact Url.below_of_settles (hSettles.atPath path) rfl hFront hRaw hSmart hSingle hLength
  have hQueryPath : queryPath contract query = .ok (smartPath contract e) := by
    rw [queryPath, hEncode]
    rfl
  -- The base has lost its slashes before it is read, so they do not matter to the URL.
  refine ⟨u.atPath (frontPath segments ++ smartPath contract e), e, b, ?_, rfl, hSettles.given,
    ?_, rfl, hEncode, hEscaped, hEmbed, hDecode, hExtract⟩
  · intro environment timeout slashes
    let client : Client := ⟨baseText u.scheme host part segments, u.atPath path, timeout, false⟩
    have hAddress : client.address (smartPath contract e) =
        .ok (u.atPath (frontPath segments ++ smartPath contract e)) := address_eq hBelow hSite
    refine ⟨client, ?_, fun reply => sent_of_address hQueryPath hAddress rfl reply⟩
    rw [Client.connect, baseUrlText_slashes hScheme hHost hPart hSegments hLast, baseText, hRead]
    rfl
  · exact Url.rawPath_atPath _ (by simp [smartPath, Text.ofString, Text.ofChars])

/-- Slash and padding of base64 are escaped once. -/
theorem query_sent_lcd :
    ∃ url,
      (∀ environment timeout slashes, ∃ client,
        Client.connect environment (some (Text.ofString "http://localhost:1317/lcd" ++
          List.replicate slashes (.scalar '/'))) timeout = .ok client ∧
        ∀ reply, (client.query (Text.ofString "wasm1x")
          (.object [("owner", .string "ü?>?")]) reply).sent = [url]) ∧
      url.rawPath = Text.ofString
        "/lcd/cosmwasm/wasm/v1/contract/wasm1x/smart/eyJvd25lciI6IsO8Pz4%2FIn0%3D" := by
  have hHost : Url.IsHost (Text.ofString "localhost") :=
    .ascii (by decide) (by decide) (by decide) fun hMarked => absurd hMarked (by decide)
  have hPart : Url.IsPortPart (Text.ofString ":1317") :=
    @Url.IsPortPart.digits ['1', '3', '1', '7'] (by simp) (by decide)
  have hQuery : (Json.object [("owner", .string "ü?>?")]).Portable := by
    refine .object (by decide) (by decide) fun x hx => ?_
    rw [List.mem_singleton.mp hx]
    exact .string (by decide)
  have hEncode : encodeQuery (.object [("owner", .string "ü?>?")]) =
      .ok (Text.ofString "eyJvd25lciI6IsO8Pz4%2FIn0%3D") := by decide
  obtain ⟨url, e, b, hSent, -, -, hRaw, -, hE, -⟩ :=
    @query_sent "http" "localhost" ":1317" "wasm1x" ["lcd"] _ (.inl rfl) hHost hPart (by decide)
      (by decide) (by decide) hQuery (by decide) fun e hE => by
        rw [hEncode] at hE
        cases hE
        decide
  rw [hEncode] at hE
  cases hE
  exact ⟨url, hSent, hRaw⟩

end DemurrageToken.Node
