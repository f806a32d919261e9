import DemurrageToken.Proofs.SmartQuery

/-! The requests of a client whose base has the usual form. Such a client sends
a query exactly if the query can be encoded and the path is not too long, and
everything that it sends lies below the base. -/
namespace DemurrageToken.Node

/-! ### Queries and paths -/

theorem queryPath_of_encodeQuery {query : Json} {e : Text} (h : encodeQuery query = .ok e)
    (contract : Text) : queryPath contract query = .ok (smartPath contract e) := by
  rw [queryPath, h]
  rfl

/-- The form of a query in a path is a single segment. -/
theorem slash_notMem_escapedBase64 {e : Text} (h : EscapedBase64 e) : .scalar '/' ∉ e := by
  induction h with
  | nil => exact List.not_mem_nil
  | @character c rest hc _ ih =>
      intro hSlash
      rcases List.mem_cons.mp hSlash with hHere | hRest
      · rw [← CodePoint.scalar.inj hHere] at hc
        exact absurd hc (by decide)
      · exact ih hRest
  | @escape mark rest hMark _ ih =>
      intro hSlash
      rcases List.mem_append.mp hSlash with hHere | hRest
      · rcases hMark with rfl | rfl | rfl <;> exact absurd hHere (by decide)
      · exact ih hRest

/-! ### Bases -/

/-- A base in the form in which operators give it: scheme, host, port or none,
and the segments of a path. -/
structure Base where
  scheme : Text
  host : Text
  part : Text
  segments : List Text
  isWebScheme : Url.IsWebScheme scheme
  isHost : Url.IsHost host
  isPortPart : Url.IsPortPart part
  characters : ∀ segment ∈ segments, ∀ c ∈ segment, isSegmentCharacter c = true
  last : segments.getLast? ≠ some []

namespace Base

/-- The text of a base, without slashes at its end. -/
def text (b : Base) : Text := baseText b.scheme b.host b.part b.segments

/-- The text of a base with slashes at its end. -/
def slashed (b : Base) (slashes : Nat) : Text := b.text ++ List.replicate slashes (.scalar '/')

/-- The path of the request that asks a contract below a base. -/
def path (b : Base) (contract encoded : Text) : Text :=
  frontPath b.segments ++ smartPath contract encoded

/-- A request below a base, for a contract and a query in the form of a path. -/
structure Asks (b : Base) (contract encoded : Text) (url : Url) : Prop where
  scheme : url.scheme = b.scheme
  site : Url.Names b.scheme (b.host ++ b.part) url.host url.port
  path : url.rawPath = b.path contract encoded
  query : url.query = none

/-- What is sent below a base: a request for a query that can be encoded, if
its path is not too long. -/
def Sends (b : Base) (contract : Text) (query : Json) (sent : List Url) : Prop :=
  match encodeQuery query with
  | .ok e =>
    if (b.path contract e).length ≤ Url.lengthLimit then ∃ url, sent = [url] ∧ b.Asks contract e url
    else sent = []
  | .error _ => sent = []

variable {b : Base} {contract : Text} {query : Json}

theorem slashed_ne_nil (b : Base) (slashes : Nat) : b.slashed slashes ≠ [] := by
  refine List.append_ne_nil_of_left_ne_nil ?_ _
  rcases b.isWebScheme with hScheme | hScheme <;>
    simp [text, baseText, hScheme, Text.ofString, Text.ofChars]

/-- Slashes at the end of a base URL make no difference to its client. -/
theorem connect_slashed (b : Base) (environment : Environment) (slashes : Nat) (timeout : Json) :
    Client.connect environment (some (b.slashed slashes)) timeout =
      (Url.readBase b.text).map fun base => ⟨b.text, base, timeout, false⟩ := by
  rw [Client.connect, slashed, text,
    baseUrlText_slashes b.isWebScheme b.isHost b.isPortPart b.characters b.last]
  cases Url.readBase (baseText b.scheme b.host b.part b.segments) <;> rfl

theorem connect_of_tooLong (h : Url.lengthLimit < b.text.length) (environment : Environment)
    (slashes : Nat) (timeout : Json) :
    Client.connect environment (some (b.slashed slashes)) timeout = .error .tooLong := by
  rw [connect_slashed, Url.readBase, Url.read, if_pos h]
  rfl

/-- Whatever is sent lies below the base. -/
theorem Sends.asks {sent : List Url} (h : b.Sends contract query sent) {url : Url}
    (hUrl : url ∈ sent) : ∃ e, b.Asks contract e url := by
  rw [Sends] at h
  split at h
  · next e _ =>
      split at h
      · obtain ⟨only, rfl, hAsks⟩ := h
        exact ⟨e, List.mem_singleton.mp hUrl ▸ hAsks⟩
      · rw [h] at hUrl
        cases hUrl
  · rw [h] at hUrl
    cases hUrl

/-- A base that is not too long is read, and below it a path has a URL if the
two are not too long together. -/
theorem exists_below (b : Base) (hLength : b.text.length ≤ Url.lengthLimit) :
    ∃ (u base : Url), Url.readBase b.text = .ok base ∧ u.scheme = b.scheme ∧ u.userinfo = [] ∧
      Url.Names b.scheme (b.host ++ b.part) u.host u.port ∧ u.checkSite = .ok () ∧
      ∀ contract e, (∀ c ∈ contract, Percent.isLetterOrDigit c = true) → EscapedBase64 e →
        if (b.path contract e).length ≤ Url.lengthLimit then
          base.below (smartPath contract e) = .ok (u.atPath (b.path contract e))
        else ∃ fault, base.below (smartPath contract e) = .error fault := by
  obtain ⟨scheme, host, part, segments, hScheme, hHost, hPart, hSegments, hLast⟩ := b
  have hLengths := hLength
  simp only [text, baseText, List.length_append] at hLengths
  -- Host and port are part of the text of the base, so they are not too long either.
  have hMarks : 0 < (Text.ofString "://").length := by decide
  obtain ⟨u, rfl, -, hSettles, hSite⟩ := Url.exists_settles hScheme hHost hPart (by
    rw [List.length_append]
    omega)
  have hFront := plainPath_frontPath hSegments
  obtain ⟨path, hRead, hRaw⟩ := Url.readBase_of_settles hSettles hScheme
    (hHost.isAuthority.append hPart.isAuthority) hFront (getLast?_frontPath hSegments hLast)
    hLength (by omega)
  refine ⟨u, u.atPath path, hRead, rfl, hSettles.userinfo, hSettles.given, hSite,
    fun contract e hContract hE => ?_⟩
  have hSmart := plainPath_smartPath hContract hE
  obtain ⟨rest, hRest, hSingle⟩ := smartPath_rooted contract e
  split
  · next hFits =>
      simp only [Base.path, hRest] at hFits hSmart ⊢
      exact Url.below_of_settles (hSettles.atPath path) rfl hFront hRaw hSmart hSingle hFits
  · next hLong =>
      simp only [Base.path, hRest] at hLong hSmart ⊢
      exact Url.below_of_tooLong (hSettles.atPath path) hFront hRaw hSmart hSingle
        (Nat.lt_of_not_le hLong)

/-- Every base of the usual form that is not too long has a client. -/
theorem exists_client (b : Base) (hLength : b.text.length ≤ Url.lengthLimit)
    (environment : Environment) (slashes : Nat) (timeout : Json) :
    ∃ client, Client.connect environment (some (b.slashed slashes)) timeout = .ok client := by
  obtain ⟨u, base, hRead, -⟩ := b.exists_below hLength
  refine ⟨⟨b.text, base, timeout, false⟩, ?_⟩
  rw [connect_slashed, hRead]
  rfl

/-- What a client sends for a query lies below its base, and names neither a user
nor a fragment. -/
theorem exists_url_of_connect {environment : Environment} {slashes : Nat} {timeout : Json}
    {client : Client}
    (hConnect : Client.connect environment (some (b.slashed slashes)) timeout = .ok client)
    (hContract : ∀ c ∈ contract, Percent.isLetterOrDigit c = true) (query : Json)
    (reply : Except TransportFault Response) :
    match encodeQuery query with
    | .ok e =>
      if (b.path contract e).length ≤ Url.lengthLimit then
        ∃ url, (client.query contract query reply).sent = [url] ∧ b.Asks contract e url ∧
          url.userinfo = [] ∧ url.fragment = none
      else (client.query contract query reply).sent = []
    | .error _ => (client.query contract query reply).sent = [] := by
  have hLength : b.text.length ≤ Url.lengthLimit := by
    refine Nat.le_of_not_lt fun hLong => ?_
    rw [connect_of_tooLong hLong] at hConnect
    cases hConnect
  rw [connect_slashed] at hConnect
  obtain ⟨base, hRead, rfl⟩ := Except.map_eq_ok_iff.mp hConnect
  obtain ⟨u, base', hRead', hScheme, hUserinfo, hNames, hSite, hBelow⟩ := b.exists_below hLength
  obtain rfl : base' = base := Except.ok.inj (hRead'.symm.trans hRead)
  cases hEncode : encodeQuery query with
  | error run =>
      simp only [Client.query, queryPath, hEncode]
      rfl
  | ok e =>
      have hPath := queryPath_of_encodeQuery hEncode contract
      have hAddress := hBelow contract e hContract (escapedBase64_of_encodeQuery hEncode)
      simp only at hAddress ⊢
      split
      · next hFits =>
          rw [if_pos hFits] at hAddress
          have hNonempty : b.path contract e ≠ [] := by
            simp [path, smartPath, Text.ofString, Text.ofChars]
          have hUrl : Client.address ⟨b.text, base', timeout, false⟩ (smartPath contract e) =
              .ok (u.atPath (b.path contract e)) := address_eq hAddress hSite
          exact ⟨u.atPath (b.path contract e), sent_of_address hPath hUrl rfl reply,
            ⟨hScheme, hNames, Url.rawPath_atPath u hNonempty, rfl⟩, hUserinfo, rfl⟩
      · next hLong =>
          rw [if_neg hLong] at hAddress
          obtain ⟨fault, hFault⟩ := hAddress
          simp only [Client.query, hPath, Client.address, hFault]
          rfl

/-- What a client sends for a query, whatever the environment, the slashes at
the end of its base and the reply are. -/
theorem sends_of_connect {environment : Environment} {slashes : Nat} {timeout : Json}
    {client : Client}
    (hConnect : Client.connect environment (some (b.slashed slashes)) timeout = .ok client)
    (hContract : ∀ c ∈ contract, Percent.isLetterOrDigit c = true) (query : Json)
    (reply : Except TransportFault Response) :
    b.Sends contract query (client.query contract query reply).sent := by
  have hUrl := exists_url_of_connect hConnect hContract query reply
  rw [Sends]
  cases hEncode : encodeQuery query with
  | error run =>
      rw [hEncode] at hUrl
      exact hUrl
  | ok e =>
      simp only [hEncode] at hUrl ⊢
      split at hUrl
      · next hFits =>
          obtain ⟨url, hSent, hAsks, -⟩ := hUrl
          exact (if_pos hFits).mpr ⟨url, hSent, hAsks⟩
      · next hLong => exact (if_neg hLong).mpr hUrl

end Base

end DemurrageToken.Node
