import DemurrageToken.Proofs.NodeAnswers
import DemurrageToken.Proofs.UrlPaths

/-! Where a query goes for an address of any kind. An address stands in the path as
it is given, so its marks and its dot segments count as those of the URL. Without
marks the query stays at the end of the path, and as long as the dot segments stay
inside the address the path stays on the route of smart queries. -/
namespace DemurrageToken.Node

/-- The route of smart queries below a base. -/
def route : Text := "cosmwasm/wasm/v1/contract/"

/-- The end of the path of a smart query. -/
def smartEnd (encoded : Text) : Text := "/smart/" ++ encoded

/-- An address that has no marks of a URL. -/
def Unmarked (contract : Text) : Prop := .scalar '?' ∉ contract ∧ .scalar '#' ∉ contract

instance (contract : Text) : Decidable (Unmarked contract) :=
  inferInstanceAs (Decidable (.scalar '?' ∉ contract ∧ .scalar '#' ∉ contract))

/-- An address whose dot segments do not lead out of it. -/
def Contained (contract : Text) : Prop := Url.StaysBelow 0 (contract.splitOn (.scalar '/'))

instance (contract : Text) : Decidable (Contained contract) :=
  inferInstanceAs (Decidable (Url.StaysBelow 0 (contract.splitOn (.scalar '/'))))

/-! ### The path that is asked for -/

/-- The path of a query is the route, the address and the end. -/
theorem smartPath_eq (contract encoded : Text) :
    smartPath contract encoded = .scalar '/' :: (route ++ contract ++ smartEnd encoded) := by
  simp only [smartPath, smartEnd, List.append_assoc]
  rfl

theorem keepsInPath_route : ∀ c ∈ route, Url.keepsInPath c = true := by decide

theorem keepsInPath_smartEnd {encoded : Text} (h : EscapedBase64 encoded) :
    ∀ c ∈ smartEnd encoded, Url.keepsInPath c = true := by
  have hSmart : ∀ c ∈ Text.ofString "/smart/", Url.keepsInPath c = true := by decide
  exact fun c hc => (List.mem_append.mp hc).elim (hSmart c) fun hMem =>
    (isPathCharacter_spec (h.isPathCharacter c hMem)).1

/-- Of the path of a query only the address is encoded. -/
theorem encode_smart (contract : Text) {encoded : Text} (h : EscapedBase64 encoded) :
    Percent.encode Url.keepsInPath (route ++ contract ++ smartEnd encoded) =
      route ++ Percent.encode Url.keepsInPath contract ++ smartEnd encoded := by
  rw [Percent.encode_append, Percent.encode_append, Percent.encode_of_keeps keepsInPath_route,
    Percent.encode_of_keeps (keepsInPath_smartEnd h)]

theorem unmarked_append_iff {t u : Text} : Unmarked (t ++ u) ↔ Unmarked t ∧ Unmarked u := by
  simp only [Unmarked, List.mem_append, not_or]
  exact and_and_and_comm

theorem unmarked_of_keepsInPath {t : Text} (h : ∀ c ∈ t, Url.keepsInPath c = true) : Unmarked t :=
  ⟨fun hMark => (Url.keepsInPath_spec (h _ hMark)).2.1 rfl,
    fun hMark => (Url.keepsInPath_spec (h _ hMark)).2.2.1 rfl⟩

theorem Unmarked.smart {contract encoded : Text} (hContract : Unmarked contract)
    (h : EscapedBase64 encoded) : Unmarked (route ++ contract ++ smartEnd encoded) :=
  unmarked_append_iff.mpr
    ⟨unmarked_append_iff.mpr ⟨unmarked_of_keepsInPath keepsInPath_route, hContract⟩,
      unmarked_of_keepsInPath (keepsInPath_smartEnd h)⟩

/-- Encoding an address changes nothing about its dot segments. -/
theorem contained_encode_iff {contract : Text} :
    Contained (Percent.encode Url.keepsInPath contract) ↔ Contained contract := by
  rw [Contained, Url.splitOn_encode, Url.staysBelow_map_encode, Contained]

/-! ### The path that is sent -/

section

variable {encoded : Text} (h : EscapedBase64 encoded)

include h

/-- The last two segments of a path of a query are the word for smart queries and the
query, whatever stands in front. -/
theorem splitOn_smartEnd (front : Text) :
    (front ++ smartEnd encoded).splitOn (.scalar '/') =
      front.splitOn (.scalar '/') ++ [Text.ofString "smart", encoded] := by
  have hEnd : smartEnd encoded =
      .scalar '/' :: (Text.ofString "smart" ++ .scalar '/' :: encoded) := rfl
  have hSmart : (Text.ofString "smart").splitOn (.scalar '/') = [Text.ofString "smart"] := by decide
  rw [hEnd, List.splitOn_append_cons_self, List.splitOn_append_cons_self, hSmart,
    List.splitOn_eq_singleton (slash_notMem_escapedBase64 h)]
  rfl

/-- Neither of the last two segments is split further or removed. -/
theorem end_spec : ∀ segment ∈ [Text.ofString "smart", encoded],
    .scalar '/' ∉ segment ∧ Url.Dotless segment := by
  intro segment hSegment
  rcases List.mem_pair.mp hSegment with rfl | rfl
  · exact ⟨by decide, by decide, by decide⟩
  · have hDot : .scalar '.' ∉ segment := fun hMem =>
      (isPathCharacter_spec (h.isPathCharacter _ hMem)).2 rfl
    refine ⟨slash_notMem_escapedBase64 h, ?_, ?_⟩
    · rintro rfl
      exact hDot (by decide)
    · rintro rfl
      exact hDot (by decide)

/-- Dot segments before the query do not reach it. -/
theorem removeDots_smartEnd (front : Text) :
    Url.removeDots (front ++ smartEnd encoded) =
      Text.join [.scalar '/'] (Url.resolveSegments [] (front.splitOn (.scalar '/')) ++
        [Text.ofString "smart", encoded]) := by
  rw [Url.removeDots, splitOn_smartEnd h, Url.resolveSegments_append,
    Url.resolveSegments_of_dotless fun segment hSegment => (end_spec h segment hSegment).2,
    List.reverse_reverse]
  rfl

/-- Dot segments of the address may remove what stands in front of the end, and the
end stays. -/
theorem splitOn_removeDots_smartEnd (front : Text) :
    ∃ before, (Url.removeDots (front ++ smartEnd encoded)).splitOn (.scalar '/') =
      before ++ [Text.ofString "smart", encoded] := by
  refine ⟨Url.resolveSegments [] (front.splitOn (.scalar '/')), ?_⟩
  rw [removeDots_smartEnd h, Text.splitOn_join (List.append_ne_nil_of_right_ne_nil _ (by simp))]
  intro segment hSegment
  rcases List.mem_append.mp hSegment with hFront | hEnd
  · rcases Url.mem_resolveSegments hFront with hNil | ⟨hMem, -⟩
    · cases hNil
    · exact Text.notMem_of_mem_splitOn hMem
  · exact (end_spec h segment hEnd).1

/-- Dot segments that stay inside an address do not reach what stands before it. -/
theorem removeDots_of_contained {directory contract : Text}
    (hDirectory : Url.DotlessPath directory) (hContract : Contained contract) :
    directory ++ [.scalar '/'] <+:
      Url.removeDots (directory ++ .scalar '/' :: contract ++ smartEnd encoded) := by
  have hKept : (directory.splitOn (.scalar '/')).reverse ≠ [] := by simp
  obtain ⟨rest, hRest⟩ := @Url.StaysBelow.resolveSegments_eq _ _ [] hKept hContract
  have hResolved : Url.resolveSegments [] ((directory ++ .scalar '/' :: contract).splitOn
      (.scalar '/')) = directory.splitOn (.scalar '/') ++ rest := by
    rw [List.splitOn_append_cons_self, Url.resolveSegments_append,
      Url.resolveSegments_of_dotless hDirectory, List.reverse_nil, List.nil_append]
    rwa [List.reverse_reverse] at hRest
  refine ⟨Text.join [.scalar '/'] (rest ++ [Text.ofString "smart", encoded]), ?_⟩
  rw [removeDots_smartEnd h, hResolved, List.append_assoc (directory.splitOn _),
    Text.join_append _ (List.splitOn_ne_nil _ _) (List.append_ne_nil_of_right_ne_nil _ (by simp)),
    Text.join_splitOn]

end

/-- What is sent is the path of the query below the base of the client. -/
theorem below_of_sent {client : Client} {contract : Text} {query : Json}
    {reply : Except TransportFault Response} {url : Url}
    (h : url ∈ (client.query contract query reply).sent) :
    ∃ e, encodeQuery query = .ok e ∧ client.base.below (smartPath contract e) = .ok url := by
  obtain ⟨path, hPath, hAddress, -⟩ := address_of_sent h
  obtain ⟨e, hEncode, rfl⟩ := Except.map_eq_ok_iff.mp hPath
  obtain ⟨below, hBelow, hSite⟩ := Except.bind_eq_ok_iff.mp hAddress
  obtain ⟨_, -, hEq⟩ := Except.bind_eq_ok_iff.mp hSite
  cases hEq
  exact ⟨e, hEncode, Except.mapError_eq_ok_iff.mp hBelow⟩

/-- The base of a client has no marks, and its path ends in a slash. -/
theorem base_of_connect {environment : Environment} {given : Option Text} {timeout : Json}
    {client : Client} (h : Client.connect environment given timeout = .ok client) :
    client.base.Tidy ∧ client.base.rawPath.getLast? = some (.scalar '/') := by
  obtain ⟨base, hBase, hClient⟩ := Except.bind_eq_ok_iff.mp h
  cases hClient
  exact Url.base_of_readBase hBase

/-! ### Requests for an address -/

/-- The path of a query, below a base: cut at the first mark of a fragment, escaped,
and put behind the path of the base. -/
theorem withRawPath_of_below {base url : Url} {contract e : Text}
    (h : base.below (smartPath contract e) = .ok url) :
    base.withRawPath (base.rawPath ++
      Url.escapeBoth (Url.splitAtFirst '#' (route ++ contract ++ smartEnd e)).1) = .ok url := by
  rw [smartPath_eq] at h
  exact @Url.below_eq_ok base url (.scalar 'c') _ (by decide) (by decide) h

/-- Without marks in the address, the path of the query is put behind the base, with
the address encoded. -/
theorem extends_of_below {base url : Url} (hTidy : base.Tidy) {contract e : Text}
    (hContract : Unmarked contract) (hEncoded : EscapedBase64 e)
    (h : base.below (smartPath contract e) = .ok url) :
    Url.Extends base (route ++ Percent.encode Url.keepsInPath contract ++ smartEnd e) url := by
  rw [smartPath_eq] at h
  rw [← encode_smart contract hEncoded]
  exact @Url.Tidy.below base url hTidy (.scalar 'c') _ (by decide) (by decide)
    (hContract.smart hEncoded) h

/-- Below a base, what is sent for an address without marks ends in the query and
has no query string that the base has not, and if the address is contained it
lies on the route. -/
theorem route_of_extends {base url : Url} {contract e : Text} (hEncoded : EscapedBase64 e)
    (hSlash : base.rawPath.getLast? = some (.scalar '/'))
    (h : Url.Extends base (route ++ Percent.encode Url.keepsInPath contract ++ smartEnd e) url) :
    (url.query = none ↔ base.query = none) ∧
      (∃ front, url.rawPath.splitOn (.scalar '/') = front ++ [Text.ofString "smart", e]) ∧
      (Contained contract → base.rawPath ++ route <+: url.rawPath) := by
  cases h with
  | appended hQuery hRaw =>
      rw [hRaw]
      refine ⟨hQuery, ?_, fun _ => ?_⟩
      · rw [← List.append_assoc]
        exact ⟨_, splitOn_smartEnd hEncoded _⟩
      · rw [List.append_assoc, ← List.append_assoc]
        exact List.prefix_append _ _
  | resolved hQuery hDots hPath =>
      rw [← List.append_assoc, ← List.append_assoc] at hPath
      obtain ⟨before, hLast⟩ := splitOn_removeDots_smartEnd hEncoded
        (base.rawPath ++ route ++ Percent.encode Url.keepsInPath contract)
      have hNonempty : url.path ≠ [] := by
        intro hNil
        rw [← hPath, hNil] at hLast
        simpa using congrArg List.length hLast
      have hRaw := Url.rawPath_of_path hNonempty hQuery.1
      refine ⟨iff_of_true hQuery.1 hQuery.2, ⟨before, by rw [hRaw, hPath, hLast]⟩, fun hIn => ?_⟩
      obtain ⟨root, hRoot⟩ := List.getLast?_eq_some_iff.mp hSlash
      have hDirectory : Url.DotlessPath (root ++ .scalar '/' :: "cosmwasm/wasm/v1/contract") := by
        rw [hRoot] at hDots
        exact Url.dotlessPath_append_iff.mpr
          ⟨(Url.dotlessPath_append_iff.mp hDots).1, by decide⟩
      have hFront : base.rawPath ++ route =
          root ++ .scalar '/' :: "cosmwasm/wasm/v1/contract" ++ [.scalar '/'] := by
        rw [hRoot, List.append_assoc, List.append_assoc]
        rfl
      have hPrefix := removeDots_of_contained hEncoded hDirectory (contained_encode_iff.mpr hIn)
      rw [hRaw, hPath, hFront]
      rwa [List.append_assoc _ [_]]

theorem fragment_notMem_route {front : Text} (h : .scalar '#' ∉ front) :
    .scalar '#' ∉ route ++ front := by
  rw [List.mem_append, not_or]
  exact ⟨(unmarked_of_keepsInPath keepsInPath_route).2, h⟩

/-- Behind the mark of a fragment the query is not read, so the URL is that of any
other query. -/
theorem eq_of_fragment {base url url' : Url} {contract e e' : Text}
    (hContract : .scalar '#' ∈ contract) (h : base.below (smartPath contract e) = .ok url)
    (h' : base.below (smartPath contract e') = .ok url') : url' = url := by
  obtain ⟨before, after, rfl, hBefore⟩ := List.eq_append_cons_of_mem hContract
  have hCut : ∀ e, (Url.splitAtFirst '#'
      (route ++ (before ++ .scalar '#' :: after) ++ smartEnd e)).1 = route ++ before := by
    intro e
    rw [← List.append_assoc, List.append_assoc, List.cons_append,
      Url.splitAtFirst_append (fragment_notMem_route hBefore)]
  have hRaw := withRawPath_of_below h
  have hRaw' := withRawPath_of_below h'
  rw [hCut] at hRaw hRaw'
  exact Except.ok.inj (hRaw'.symm.trans hRaw)

/-- From the mark of a query on, the rest of the path is a query string. -/
theorem query_of_mark {base url : Url} {front back e : Text} (hFront : .scalar '#' ∉ front)
    (h : base.below (smartPath (front ++ .scalar '?' :: back) e) = .ok url) :
    url.query ≠ none := by
  have hMark := @Url.mem_splitAtFirst '#' (.scalar '?') (by decide) _
    (fragment_notMem_route hFront) (back ++ smartEnd e)
  refine Url.query_of_withRawPath ?_ (withRawPath_of_below h)
  refine List.mem_append_right _ (Url.mem_escapeBoth ?_)
  rwa [← List.append_assoc, List.append_assoc, List.cons_append]

/-- Where a query goes, whatever the base and the address are. Without marks in the
address the query stands at the end of the path, and if dot segments do not lead
out of the address the path lies on the route. Behind `#` everything is lost, so
that all queries are one request, and from `?` on it is a query string. -/
theorem query_route {environment : Environment} {given : Option Text} {timeout : Json}
    {client : Client} (hConnect : Client.connect environment given timeout = .ok client)
    {contract : Text} {query : Json} {reply : Except TransportFault Response} {url : Url}
    (hSent : url ∈ (client.query contract query reply).sent) :
    (Unmarked contract → ∃ e b, encodeQuery query = .ok e ∧ Payload.embed query = .ok b ∧
      Utf8.decode (Percent.decode e) = .ok b ∧ (url.query = none ↔ client.base.query = none) ∧
      (∃ front, url.rawPath.splitOn (.scalar '/') = front ++ [Text.ofString "smart", e]) ∧
      (Contained contract → client.base.rawPath ++ route <+: url.rawPath)) ∧
    (.scalar '#' ∈ contract → ∀ query' reply', ∀ url' ∈ (client.query contract query' reply').sent,
      url' = url) ∧
    ∀ front back, contract = front ++ .scalar '?' :: back → .scalar '#' ∉ front →
      url.query ≠ none := by
  obtain ⟨e, hEncode, hBelow⟩ := below_of_sent hSent
  refine ⟨fun hUnmarked => ?_, fun hFragment query' reply' url' hSent' => ?_, ?_⟩
  · obtain ⟨hTidy, hSlash⟩ := base_of_connect hConnect
    obtain ⟨b, hEmbed, hDecode⟩ := decode_of_encodeQuery hEncode
    have hEncoded := escapedBase64_of_encodeQuery hEncode
    exact ⟨e, b, hEncode, hEmbed, hDecode,
      route_of_extends hEncoded hSlash (extends_of_below hTidy hUnmarked hEncoded hBelow)⟩
  · obtain ⟨e', -, hBelow'⟩ := below_of_sent hSent'
    exact eq_of_fragment hFragment hBelow hBelow'
  · rintro front back rfl hFront
    exact query_of_mark hFront hBelow

/-- A contained address, whose dots are resolved within the route. -/
theorem query_route_contained :
    Client.connect [] (some "http://lcd.test") defaultTimeout = .ok exampleClient ∧
    ∃ url ∈ (exampleClient.query "a/../%c" exampleQuery (.ok ⟨200, [], []⟩)).sent,
      url.query = none ∧ exampleClient.base.rawPath ++ route <+: url.rawPath := by
  have hConnect : Client.connect [] (some "http://lcd.test") defaultTimeout = .ok exampleClient :=
    rfl
  let url : Url := { exampleUrl with
    path := "/cosmwasm/wasm/v1/contract/%c/smart/eyJ0b2tlbl9pbmZvIjp7fX0%3D" }
  have hSent : url ∈ (exampleClient.query "a/../%c" exampleQuery (.ok ⟨200, [], []⟩)).sent := by
    decide +kernel
  obtain ⟨e, b, -, -, -, hQuery, -, hRoute⟩ := (query_route hConnect hSent).1 (by decide)
  exact ⟨hConnect, url, hSent, hQuery.mpr rfl, hRoute (by decide)⟩

/-- An address that leads out of the route and hides the query: another route of the
node is asked. -/
theorem query_leaves_route :
    Client.connect [] (some "http://lcd.test") defaultTimeout = .ok exampleClient ∧
    (exampleClient.query "../../../../cosmos/bank/v1beta1/supply#" exampleQuery
      (.ok ⟨200, [], []⟩)).sent = [{ exampleUrl with path := "/cosmos/bank/v1beta1/supply" }] ∧
    ¬exampleClient.base.rawPath ++ route <+: Text.ofString "/cosmos/bank/v1beta1/supply" ∧
    (exampleClient.query "a?b" exampleQuery (.ok ⟨200, [], []⟩)).sent =
      [{ exampleUrl with
        path := "/cosmwasm/wasm/v1/contract/a",
        query := some "b/smart/eyJ0b2tlbl9pbmZvIjp7fX0%3D" }] := by
  refine ⟨rfl, by decide +kernel, by decide, by decide +kernel⟩

end DemurrageToken.Node
