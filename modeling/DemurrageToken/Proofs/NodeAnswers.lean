import DemurrageToken.Proofs.RequestSites
import DemurrageToken.Proofs.JsonReading

/-! What a client makes of the responses of a node. A response is handed on by the
HTTP layer or it is not; one that is handed on is judged by its status and by
what its body holds, and is either data or a rejection. -/
namespace DemurrageToken

/-! ### Responses and their texts -/

/-- The character sets that find a text in any bytes, those of nearly all nodes
among them. -/
inductive Charset.IsLenient : Charset → Prop where
  | ascii : IsLenient .ascii
  | utf8 (signature : Bool) : IsLenient (.utf8 signature)
  | table (upper : String) : IsLenient (.table upper)

theorem Charset.stop_notMem_utf8Pieces (bytes : Bytes) : Piece.stop ∉ utf8Pieces bytes := by
  rw [utf8Pieces, List.mem_map]
  rintro ⟨segment, -, hStop⟩
  cases segment <;> cases hStop

theorem Charset.tablePiece_ne_stop (upper : List Char) (b : UInt8) :
    tablePiece upper b ≠ .stop := by
  rw [tablePiece]
  split
  · simp
  · split <;> simp

/-- Bytes that mean nothing in these character sets are replaced, so that there is
always a text. -/
theorem Charset.IsLenient.exists_decode {charset : Charset} (h : charset.IsLenient)
    (bytes : Bytes) : ∃ t, charset.decode bytes = .ok t := by
  cases h with
  | ascii =>
      have hStop : Piece.stop ∉ (Charset.ascii.pieces? bytes).getD [] := by
        simp only [pieces?, Option.getD_some, List.mem_map, not_exists, not_and]
        intro b _
        split <;> simp
      simp [decode, hStop, hasLimitedWait]
  | utf8 signature =>
      cases signature with
      | true =>
          simp only [decode]
          split <;> exact ⟨_, rfl⟩
      | false =>
          have hStop : Piece.stop ∉ (Charset.utf8 false |>.pieces? bytes).getD [] :=
            stop_notMem_utf8Pieces bytes
          simp [decode, hStop, hasLimitedWait]
  | table upper =>
      have hStop : Piece.stop ∉ (Charset.table upper |>.pieces? bytes).getD [] := by
        simp only [pieces?, Option.getD_some, List.mem_map, not_exists, not_and]
        exact fun b _ => tablePiece_ne_stop _ b
      simp [decode, hStop, hasLimitedWait]

/-- A body in one of these character sets has a text, whatever its bytes are. -/
theorem Response.exists_text {r : Response} {charset : Charset} (hCharset : r.charset = .ok charset)
    (h : charset.IsLenient) : ∃ body, r.text = .ok body := by
  rw [Response.text]
  split
  · exact ⟨_, rfl⟩
  · obtain ⟨t, ht⟩ := h.exists_decode r.body
    rw [hCharset, Except.ok_bind, ht]
    exact ⟨t, rfl⟩

/-- Undoing the coding of a body leaves the rest of the response alone. -/
theorem Response.decoded_eq_ok {r received : Response} (h : r.decoded = .ok received) :
    received.status = r.status ∧ received.headers = r.headers := by
  obtain ⟨body, -, hReceived⟩ := Except.bind_eq_ok_iff.mp h
  cases hReceived
  exact ⟨rfl, rfl⟩

namespace Node

/-! ### Bodies -/

/-- Bytes hold the JSON text of a value. -/
def Holds (bytes : Bytes) (v : Json) : Prop :=
  ∃ t, Json.textOfBytes? bytes = some t ∧ Json.Grammar.Document t v

/-- Reading bytes as JSON is reading the text that they are taken for. -/
theorem readBytes?_eq_some_iff {bytes : Bytes} {v : Json} :
    Json.readBytes? bytes = some v ↔ Holds bytes v := by
  have hToOption : ∀ t : Text, (Json.read t).toOption = some v ↔ Json.read t = .ok v := by
    intro t
    cases Json.read t <;> simp [Except.toOption]
  simp only [Json.readBytes?, Option.bind_eq_bind, Option.bind_eq_some_iff, hToOption,
    Json.read_eq_ok_iff, Holds]

/-- Message and code of a rejection, told from the bytes of a body and from its
text: what an object says of them, or else the text and null. -/
inductive Tells (bytes : Bytes) (body : Text) : Text → Json → Prop where
  | message {ms : Entries Json} {m : Json} (hHolds : Holds bytes (.object ms))
      (hMessage : ms.lookup (Text.ofString "message") = some m) :
      Tells bytes body m.display ((ms.lookup (Text.ofString "code")).getD .null)
  | code {ms : Entries Json} (hHolds : Holds bytes (.object ms))
      (hNone : ms.lookup (Text.ofString "message") = none) :
      Tells bytes body body ((ms.lookup (Text.ofString "code")).getD .null)
  | body (hNone : ∀ ms, ¬Holds bytes (.object ms)) : Tells bytes body body .null

/-- A member of what the bytes of a body hold. -/
theorem bind_member?_eq_some_iff {bytes : Bytes} {name : Text} {v : Json} :
    (Json.readBytes? bytes).bind (·.member? name) = some v ↔
      ∃ ms, Holds bytes (.object ms) ∧ ms.lookup name = some v := by
  rw [Option.bind_eq_some_iff]
  constructor
  · rintro ⟨w, hRead, hMember⟩
    cases w with
    | object ms => exact ⟨ms, readBytes?_eq_some_iff.mp hRead, hMember⟩
    | _ => cases hMember
  · rintro ⟨ms, hHolds, hLookup⟩
    exact ⟨.object ms, readBytes?_eq_some_iff.mpr hHolds, hLookup⟩

/-- Looking for the members of a body one by one tells what the body tells as a
whole. -/
theorem tells_member (bytes : Bytes) (body : Text) :
    let member (name : Text) : Option Json := (Json.readBytes? bytes).bind (·.member? name)
    Tells bytes body ((member "message").getD (.string body)).display
      ((member "code").getD .null) := by
  intro member
  have hMember : ∀ {ms}, Holds bytes (.object ms) → ∀ name, member name = ms.lookup name := by
    intro ms hHolds name
    simp only [member, readBytes?_eq_some_iff.mpr hHolds]
    rfl
  by_cases hHolds : ∃ ms, Holds bytes (.object ms)
  · obtain ⟨ms, hHolds⟩ := hHolds
    rw [hMember hHolds, hMember hHolds]
    cases hMessage : ms.lookup (Text.ofString "message") with
    | some m => exact .message hHolds hMessage
    | none => exact .code hHolds hMessage
  · have hNone : ∀ name, member name = none := by
      intro name
      rw [Option.eq_none_iff_forall_ne_some]
      intro v hv
      obtain ⟨ms, hObject, -⟩ := bind_member?_eq_some_iff.mp hv
      exact hHolds ⟨ms, hObject⟩
    rw [hNone, hNone]
    exact .body fun ms hObject => hHolds ⟨ms, hObject⟩

/-! ### Judging -/

section

variable {contract : Text} {r : Response}

/-- Data is accepted if the status reports no error and the body is an object that
has some, be it null. -/
theorem judge_eq_ok_iff {d : Json} :
    (judge contract r).2 = .ok d ↔ ¬(400 ≤ r.status ∧ r.status ≤ 599) ∧
      ∃ ms, Holds r.body (.object ms) ∧ ms.lookup (Text.ofString "data") = some d := by
  rw [← bind_member?_eq_some_iff, judge]
  have hStatus : r.isError = true ↔ 400 ≤ r.status ∧ r.status ≤ 599 := by
    rw [Response.isError, Bool.and_eq_true, decide_eq_true_eq, decide_eq_true_eq]
  dsimp only
  split
  · next data hData =>
      split at hData
      · cases hData
      · next hNoError => simp [← hStatus, hNoError, hData]
  · next hNone =>
      have hFails : ¬(¬(400 ≤ r.status ∧ r.status ≤ 599) ∧
          (Json.readBytes? r.body).bind (·.member? (Text.ofString "data")) = some d) := by
        rintro ⟨hNoError, hData⟩
        rw [if_neg (mt hStatus.mp hNoError), hData] at hNone
        cases hNone
      refine iff_of_false ?_ hFails
      split <;> simp

/-- What is no data is rejected, if the body has a text. -/
theorem judge_of_rejected {body : Text} (hText : r.text = .ok body)
    (hRejected : ∀ d, (judge contract r).2 ≠ .ok d) :
    ∃ message code, Tells r.body body message code ∧ (judge contract r).2 =
      .error (.rejected ⟨"Query error: " ++ message, some r.status, code⟩) := by
  refine ⟨_, _, tells_member r.body body, ?_⟩
  rw [judge] at hRejected ⊢
  dsimp only at hRejected ⊢
  split
  · next data hData =>
      rw [hData] at hRejected
      exact absurd rfl (hRejected data)
  · rw [hText]

/-! ### Answers -/

/-- A response that the HTTP layer hands on, with its body uncoded: the URL of the
request names a site, a redirect leads somewhere, and the coding of the body can be
undone. -/
structure Delivered (url : Url) (r received : Response) : Prop where
  site : checkCookieSite url = .ok ()
  redirect : r.status ∈ [301, 302, 303, 307, 308] →
    ∀ location, r.header? "location" = some location → ∃ target, url.follow location = .ok target
  body : r.decoded = .ok received

/-- A redirect passes if it leads somewhere, or if the response is none. -/
theorem checkRedirect_eq_ok_iff {url : Url} :
    checkRedirect url r = .ok () ↔
      (r.status ∈ [301, 302, 303, 307, 308] →
        ∀ location, r.header? "location" = some location →
          ∃ target, url.follow location = .ok target) := by
  rw [checkRedirect, ← List.contains_iff_mem]
  split
  · next hNone =>
      refine iff_of_true rfl fun hMoved location hLocation => ?_
      rw [if_pos hMoved, hLocation] at hNone
      cases hNone
  · next location hFound =>
      have hBoth : [301, 302, 303, 307, 308].contains r.status = true ∧
          r.header? "location" = some location := by
        split at hFound
        · next hMoved => exact ⟨hMoved, hFound⟩
        · cases hFound
      simp only [hBoth.1, hBoth.2, true_imp_iff, Option.some.injEq, forall_eq']
      cases url.follow location with
      | ok target => simp
      | error fault =>
          refine iff_of_false ?_ (by simp)
          cases fault with
          | location fault => cases fault <;> simp
          | _ => simp

/-- The checks together let through what is handed on, and nothing else. -/
theorem accept_eq_ok_iff {url : Url} {received : Response} :
    accept url r = .ok received ↔ Delivered url r received := by
  simp only [accept, Except.bind_eq_ok_iff, Except.mapError_eq_ok_iff]
  constructor
  · rintro ⟨⟨⟩, hSite, ⟨⟩, hRedirect, hBody⟩
    exact ⟨hSite, checkRedirect_eq_ok_iff.mp hRedirect, hBody⟩
  · intro h
    exact ⟨(), h.site, (), checkRedirect_eq_ok_iff.mpr h.redirect, h.body⟩

/-- What stops a response from being handed on, in the order of the checks. -/
theorem accept_eq_error_iff {url : Url} {fault : Fault} :
    accept url r = .error fault ↔
      checkCookieSite url = .error fault ∨
      checkCookieSite url = .ok () ∧ checkRedirect url r = .error fault ∨
      checkCookieSite url = .ok () ∧ checkRedirect url r = .ok () ∧
        ∃ coding, r.decoded = .error coding ∧
          .transport (.connection .decoding coding.message) = fault := by
  simp only [accept, Except.bind_eq_error_iff, Except.mapError_eq_error_iff]
  refine or_congr_right ?_
  constructor
  · rintro ⟨⟨⟩, hSite, hRedirect | ⟨⟨⟩, hRedirect, hBody⟩⟩
    · exact .inl ⟨hSite, hRedirect⟩
    · exact .inr ⟨hSite, hRedirect, hBody⟩
  · rintro (⟨hSite, hRedirect⟩ | ⟨hSite, hRedirect, hBody⟩)
    · exact ⟨(), hSite, .inl hRedirect⟩
    · exact ⟨(), hSite, .inr ⟨(), hRedirect, hBody⟩⟩

/-- What the check for cookies finds is a URL that names no site, or brackets around
no address. -/
theorem checkCookieSite_eq_error {url : Url} {fault : Fault}
    (h : checkCookieSite url = .error fault) :
    (∃ shown, fault = .relative shown) ∨ ∃ brackets, fault = .brackets brackets := by
  simp only [checkCookieSite] at h
  split at h
  all_goals
    dsimp only at h
    split at h
    · cases h
      exact .inl ⟨_, rfl⟩
    · generalize Url.Reference.read _ = reference at h
      cases reference with
      | ok => cases h
      | error brackets =>
          cases h
          exact .inr ⟨brackets, rfl⟩

theorem ne_rejected_of_checkCookieSite {url : Url} {fault : Fault}
    (h : checkCookieSite url = .error fault) (rejection : Rejection) :
    fault ≠ .rejected rejection := by
  rcases checkCookieSite_eq_error h with ⟨shown, rfl⟩ | ⟨brackets, rfl⟩ <;> simp

/-- A redirect to a URL that can be read, which still leads nowhere. -/
inductive Misleads : Url.RedirectFault → Fault → Prop where
  | surrogate (c : CodePoint) : Misleads (.location (.surrogate c)) (.url (.surrogate c))
  | url (fault : Url.Fault) : Misleads (.url fault) (.url fault)
  | site (fault : Url.SiteFault) : Misleads (.site fault) (.site fault)
  | reference (fault : Url.Reference.Fault) : Misleads (.reference fault) (.brackets fault)

/-- A redirect that fails leads to no URL at all, or it misleads. -/
theorem checkRedirect_eq_error {url : Url} {fault : Fault}
    (h : checkRedirect url r = .error fault) :
    ∃ location redirect, r.status ∈ [301, 302, 303, 307, 308] ∧
      r.header? "location" = some location ∧ url.follow location = .error redirect ∧
      ((∃ message, fault = .transport (.connection .remoteProtocol message)) ∨
        Misleads redirect fault) := by
  by_cases hMoved : r.status ∈ [301, 302, 303, 307, 308]
  · rw [checkRedirect, if_pos (List.contains_iff_mem.mpr hMoved)] at h
    cases hLocation : r.header? "location" with
    | none =>
        rw [hLocation] at h
        cases h
    | some location =>
        simp only [hLocation] at h
        cases hFollow : url.follow location with
        | ok target =>
            rw [hFollow] at h
            cases h
        | error redirect =>
            refine ⟨location, redirect, hMoved, rfl, hFollow, ?_⟩
            rw [hFollow] at h
            cases redirect with
            | location inner =>
                cases inner <;> cases h <;>
                  first | exact .inl ⟨_, rfl⟩ | exact .inr (.surrogate _)
            | url inner =>
                cases h
                exact .inr (.url inner)
            | site inner =>
                cases h
                exact .inr (.site inner)
            | reference inner =>
                cases h
                exact .inr (.reference inner)
  · rw [checkRedirect, if_neg (mt List.contains_iff_mem.mp hMoved)] at h
    cases h

theorem ne_rejected_of_checkRedirect {url : Url} {fault : Fault}
    (h : checkRedirect url r = .error fault) (rejection : Rejection) :
    fault ≠ .rejected rejection := by
  obtain ⟨location, redirect, -, -, -, ⟨message, rfl⟩ | hMisleads⟩ := checkRedirect_eq_error h
  · simp
  · cases hMisleads <;> simp

/-- None of the checks rejects a query. -/
theorem ne_rejected_of_accept {url : Url} {fault : Fault} (h : accept url r = .error fault)
    (rejection : Rejection) : fault ≠ .rejected rejection := by
  rcases accept_eq_error_iff.mp h with hSite | ⟨-, hRedirect⟩ | ⟨-, -, coding, -, rfl⟩
  · exact ne_rejected_of_checkCookieSite hSite rejection
  · exact ne_rejected_of_checkRedirect hRedirect rejection
  · simp

theorem receive_of_delivered {url : Url} {received : Response} (h : Delivered url r received) :
    Client.receive contract url (.ok r) = judge contract received := by
  simp only [Client.receive, accept_eq_ok_iff.mpr h]

theorem receive_of_accept {url : Url} {fault : Fault} (h : accept url r = .error fault) :
    Client.receive contract url (.ok r) = ([], .error fault) := by
  simp only [Client.receive, h]

/-- A response that is not handed on makes for a fault that is no rejection. -/
theorem receive_of_undelivered {url : Url} (h : ∀ received, ¬Delivered url r received) :
    ∃ fault, Client.receive contract url (.ok r) = ([], .error fault) ∧
      ∀ rejection, fault ≠ .rejected rejection := by
  cases hAccept : accept url r with
  | error fault => exact ⟨fault, receive_of_accept hAccept, ne_rejected_of_accept hAccept⟩
  | ok received => exact absurd (accept_eq_ok_iff.mp hAccept) (h received)

end

/-- What is sent is the URL of the path of the query. -/
theorem address_of_sent {c : Client} {contract : Text} {query : Json}
    {reply : Except TransportFault Response} {url : Url}
    (h : url ∈ (c.query contract query reply).sent) :
    ∃ path, queryPath contract query = .ok path ∧ c.address path = .ok url ∧ c.closed = false := by
  rw [Client.query] at h
  cases hPath : queryPath contract query with
  | error run =>
      rw [hPath] at h
      cases h
  | ok path =>
      cases hAddress : c.address path with
      | error fault =>
          simp only [hPath, hAddress] at h
          cases h
      | ok address =>
          simp only [hPath, hAddress] at h
          split at h
          · cases h
          · next hOpen =>
              obtain rfl := List.mem_singleton.mp h
              exact ⟨path, rfl, hAddress, Bool.eq_false_of_not_eq_true hOpen⟩

theorem result_of_sent {c : Client} {contract : Text} {query : Json}
    {reply : Except TransportFault Response} {url : Url}
    (h : url ∈ (c.query contract query reply).sent) :
    (c.query contract query reply).result = (Client.receive contract url reply).2 := by
  obtain ⟨path, hPath, hAddress, hOpen⟩ := address_of_sent h
  simp only [Client.query, hPath, Outcome.announce, hAddress, hOpen, Bool.false_eq_true, if_false]

/-- A query that is sent gives data exactly if the response is handed on, its
status reports no error and its body holds an object with data. Any other
response that is handed on and has a text is rejected with its status. -/
theorem query_classifies {c : Client} {contract : Text} {query : Json} {r : Response} {url : Url}
    (hSent : url ∈ (c.query contract query (.ok r)).sent) :
    (∀ d, (c.query contract query (.ok r)).result = .ok d ↔
      ∃ received, Delivered url r received ∧ ¬(400 ≤ r.status ∧ r.status ≤ 599) ∧
        ∃ ms, Holds received.body (.object ms) ∧ ms.lookup (Text.ofString "data") = some d) ∧
    (∀ received, Delivered url r received → ∀ body, received.text = .ok body →
      (∀ d, (c.query contract query (.ok r)).result ≠ .ok d) →
        ∃ message code, Tells received.body body message code ∧
          (c.query contract query (.ok r)).result =
            .error (.rejected ⟨"Query error: " ++ message, some r.status, code⟩)) ∧
    ((∀ received, ¬Delivered url r received) →
      ∃ fault, (c.query contract query (.ok r)).result = .error fault ∧
        ∀ rejection, fault ≠ .rejected rejection) := by
  rw [result_of_sent hSent]
  by_cases hDelivered : ∃ received, Delivered url r received
  · obtain ⟨received, hReceived⟩ := hDelivered
    obtain ⟨hStatus, -⟩ := Response.decoded_eq_ok hReceived.body
    -- A body is decoded to one response at most.
    have hOnly : ∀ other, Delivered url r other → other = received := fun other hOther =>
      Except.ok.inj (hOther.body.symm.trans hReceived.body)
    rw [receive_of_delivered hReceived]
    refine ⟨fun d => ?_, fun other hOther body hText hRejected => ?_, fun hNone => ?_⟩
    · rw [judge_eq_ok_iff, hStatus]
      constructor
      · exact fun hData => ⟨received, hReceived, hData⟩
      · rintro ⟨other, hOther, hData⟩
        rwa [hOnly other hOther] at hData
    · rw [hOnly other hOther] at hText ⊢
      rw [← hStatus]
      exact judge_of_rejected hText hRejected
    · exact absurd hReceived (hNone received)
  · rw [not_exists] at hDelivered
    obtain ⟨fault, hFault, hNoRejection⟩ := @receive_of_undelivered contract r url hDelivered
    rw [hFault]
    refine ⟨fun d => iff_of_false (by simp) ?_, fun received hReceived => ?_, fun _ => ?_⟩
    · rintro ⟨received, hReceived, -⟩
      exact hDelivered received hReceived
    · exact absurd hReceived (hDelivered received)
    · exact ⟨fault, rfl, hNoRejection⟩

/-! A client at work. -/

def exampleClient : Client :=
  ⟨"http://lcd.test", ⟨"http", [], "lcd.test", none, [], none, none⟩, defaultTimeout, false⟩

def exampleQuery : Json := .object [("token_info", .object [])]

/-- The URL at which the client sends the query. -/
def exampleUrl : Url :=
  ⟨"http", [], "lcd.test", none, "/cosmwasm/wasm/v1/contract/c/smart/eyJ0b2tlbl9pbmZvIjp7fX0%3D",
    none, none⟩

def exampleBody (t : String) : Bytes := (Text.ofString t).map fun c => UInt8.ofNat c.val

/-- Data may be null. -/
theorem query_classifies_null :
    exampleUrl ∈ (exampleClient.query "c" exampleQuery
      (.ok ⟨200, [], exampleBody "\x7b\"data\": null\x7d"⟩)).sent ∧
    (exampleClient.query "c" exampleQuery
      (.ok ⟨200, [], exampleBody "\x7b\"data\": null\x7d"⟩)).result = .ok .null := by
  have hSent : exampleUrl ∈ (exampleClient.query "c" exampleQuery
      (.ok ⟨200, [], exampleBody "\x7b\"data\": null\x7d"⟩)).sent := by decide +kernel
  have hDelivered : Delivered exampleUrl ⟨200, [], exampleBody "\x7b\"data\": null\x7d"⟩
      ⟨200, [], exampleBody "\x7b\"data\": null\x7d"⟩ :=
    ⟨rfl, fun hMoved => absurd hMoved (by decide), rfl⟩
  have hRead : Json.readBytes? (exampleBody "\x7b\"data\": null\x7d") =
      some (.object [("data", .null)]) := by decide +kernel
  refine ⟨hSent, ?_⟩
  rw [(query_classifies hSent).1]
  exact ⟨_, hDelivered, by decide, _, readBytes?_eq_some_iff.mp hRead, rfl⟩

/-- An object with data gives none and makes for no rejection after a redirect to
no address, where it is not coded as the headers say, and from a site with brackets
around no address. An error whose body has no text in its character set makes for
none either. -/
theorem query_withheld :
    Json.readBytes? (exampleBody "\x7b\"data\": 1\x7d") = some (.object [("data", .int 1)]) ∧
    (exampleClient.query "c" exampleQuery (.ok ⟨302,
      [(exampleBody "Location", exampleBody "http://300.1.1.1/")],
      exampleBody "\x7b\"data\": 1\x7d"⟩)).result =
        .error (.transport (.connection .remoteProtocol
          "Invalid URL in location header: Invalid IPv4 address: '300.1.1.1'.")) ∧
    (exampleClient.query "c" exampleQuery (.ok ⟨200,
      [(exampleBody "Content-Encoding", exampleBody "gzip")],
      exampleBody "\x7b\"data\": 1\x7d"⟩)).result =
        .error (.transport (.connection .decoding
          "Error -3 while decompressing data: incorrect header check")) ∧
    (exampleClient.query "c" exampleQuery (.ok ⟨500,
      [(exampleBody "Content-Type", exampleBody "text/plain; charset=base64")],
      exampleBody "x"⟩)).result = .error (.unreadable (.charset (.unreadable .bytes))) ∧
    ∃ client, Client.connect [] (some "http://[::1%]x]") defaultTimeout = .ok client ∧
      (client.query "c" exampleQuery (.ok ⟨200, [], exampleBody "\x7b\"data\": 1\x7d"⟩)).result =
        .error (.brackets (.noAddress "::1%")) := by
  refine ⟨by decide +kernel, rfl, rfl, rfl, ?_⟩
  exact ⟨⟨"http://[::1%]x]", ⟨"http", [], "::1%]x", none, [], none, none⟩, defaultTimeout, false⟩,
    rfl, rfl⟩

/-! ### Usual responses -/

/-- Below a base of the usual form, a response in a usual character set whose
body is coded as its headers say and that is no redirect is data or a rejection
with its status. -/
theorem Base.data_or_rejection {b : Base} {environment : Environment} {slashes : Nat}
    {timeout : Json} {client : Client}
    (hConnect : Client.connect environment (some (b.slashed slashes)) timeout = .ok client)
    {contract : Text} (hContract : ∀ c ∈ contract, Percent.isLetterOrDigit c = true) {query : Json}
    {r received : Response} (hSent : (client.query contract query (.ok r)).sent ≠ [])
    (hDecoded : r.decoded = .ok received) (hStay : r.status ∉ [301, 302, 303, 307, 308])
    {charset : Charset} (hCharset : received.charset = .ok charset) (hLenient : charset.IsLenient) :
    (∃ d, (client.query contract query (.ok r)).result = .ok d) ∨
      ∃ message code, (client.query contract query (.ok r)).result =
        .error (.rejected ⟨"Query error: " ++ message, some r.status, code⟩) := by
  obtain ⟨url, hUrl⟩ := List.exists_mem_of_ne_nil _ hSent
  have hSite := b.checkCookieSite_of_connect hConnect hContract hUrl
  have hDelivered : Delivered url r received :=
    ⟨hSite, fun hMoved => absurd hMoved hStay, hDecoded⟩
  obtain ⟨body, hText⟩ := Response.exists_text hCharset hLenient
  rw [result_of_sent hUrl, receive_of_delivered hDelivered,
    ← (Response.decoded_eq_ok hDecoded).1]
  by_cases hData : ∃ d, (judge contract received).2 = .ok d
  · exact .inl hData
  · obtain ⟨message, code, -, hJudge⟩ := judge_of_rejected hText (not_exists.mp hData)
    exact .inr ⟨message, code, hJudge⟩

end Node

end DemurrageToken
