import DemurrageToken.Proofs.JsonEquality
import DemurrageToken.Proofs.PayloadRoundTrip

/-! The wire form determines the message. Fields are compared as values are, so
an integer may stand for a truth value or a float; the payload alone travels as
text, and there nothing may differ. -/
namespace DemurrageToken

/-! ### Values that can be given -/

namespace Json

/-- What a value needs to be held and written: integers of a bounded number of
digits and names that differ. Strings may hold surrogates. Its parts are left
aside. -/
structure Writable (v : Json) : Prop where
  digits : ∀ n, v = .int n → (Nat.toDigits 10 n.natAbs).length ≤ Text.integerDigitLimit
  names : ∀ ms, v = .object ms → (ms.map Prod.fst).Nodup

/-- The values that a field may be given. -/
def WellFormed (v : Json) : Prop := Everywhere Writable v

theorem WellFormed.distinctNames {v : Json} (hv : v.WellFormed) : v.DistinctNames :=
  hv.mono fun _ hWritable => hWritable.names

theorem Portable.wellFormed {v : Json} (hv : v.Portable) : v.WellFormed :=
  hv.mono fun _ hPlain => ⟨hPlain.digits, hPlain.names⟩

/-- Surrogates alone keep a value that can be held from passing through JSON text. -/
theorem WellFormed.portable {v : Json} (hv : v.WellFormed) (hFree : v.SurrogateFree) :
    v.Portable := by
  induction hv with
  | mk hWritable _ ih =>
      rw [surrogateFree_iff] at hFree
      exact ⟨⟨hWritable.digits, hFree.1, hWritable.names⟩, fun w hw => ih w hw (hFree.2 w hw)⟩

end Json

/-- Payloads with one binary form are one value. -/
theorem Payload.eq_of_embed {v w : Json} {t : Text} (hv : v.WellFormed) (hw : w.WellFormed)
    (hvt : embed v = .ok t) (hwt : embed w = .ok t) : v = w := by
  have hExtract : ∀ {u : Json}, u.WellFormed → embed u = .ok t → extract t = .ok u := by
    intro u hu hut
    obtain ⟨-, hFree, rfl⟩ := embed_eq_ok_iff.mp hut
    exact extract_of_portable (hu.portable hFree)
  have hBoth := (hExtract hv hvt).symm.trans (hExtract hw hwt)
  exact Except.ok.inj hBoth

/-! ### Operations and fields -/

/-- The tag of an operation leads back to it. -/
theorem Operation.find?_tag (o : Operation) : all.find? (·.tag = o.tag) = some o := by
  cases o <;> decide

theorem Operation.tag_injective {o p : Operation} (h : o.tag = p.tag) : o = p := by
  have hFound := o.find?_tag
  rw [h, p.find?_tag] at hFound
  exact (Option.some.inj hFound).symm

theorem Operation.nodup_fields (o : Operation) : (o.fields.map (·.name)).Nodup := by
  cases o <;> decide

/-- A field named `msg` is a payload. -/
theorem Operation.msg_mem_fields_iff (o : Operation) :
    Text.ofString "msg" ∈ o.fields.map (·.name) ↔ o.carriesPayload = true := by
  cases o <;> decide

namespace Message

/-- The value of a field. -/
def field? (m : Message) (name : Text) : Option Json := m.namedValues.lookup name

/-- The payload, in a message that carries one. -/
def payload? (m : Message) : Option Json := m.field? (Text.ofString "msg")

/-- The names on the wire are those of the operation's fields, in their order. -/
theorem names_namedValues (m : Message) :
    m.namedValues.map Prod.fst = m.operation.fields.map (·.name) :=
  List.map_fst_zip (by simp [m.complete])

theorem nodup_names (m : Message) : (m.namedValues.map Prod.fst).Nodup :=
  m.names_namedValues ▸ m.operation.nodup_fields

theorem isSome_field? (m : Message) (name : Text) :
    (m.field? name).isSome = true ↔ name ∈ m.operation.fields.map (·.name) := by
  rw [field?, ← Entries.mem_names_iff, names_namedValues]

theorem mem_values_of_field? {m : Message} {name : Text} {v : Json}
    (h : m.field? name = some v) : v ∈ m.values := by
  have hMem : (name, v) ∈ m.namedValues := Entries.mem_of_lookup h
  exact (List.of_mem_zip hMem).2

/-! ### Fields on the wire -/

theorem toJson_eq_ok {m : Message} {v : Json} (h : m.toJson = .ok v) :
    ∃ fields, m.body = .ok fields ∧ v = .object [(m.operation.tag, .object fields)] := by
  obtain ⟨fields, hBody, hObject⟩ := Except.map_eq_ok_iff.mp h
  exact ⟨fields, hBody, hObject.symm⟩

/-- No name is on the wire twice. -/
theorem nodup_body {m : Message} {fields : Entries Json} (h : m.body = .ok fields) :
    (fields.map Prod.fst).Nodup := by
  rw [body] at h
  split at h
  · next hCarries =>
      obtain ⟨before, p, hValues, hBefore⟩ := namedValues_of_carriesPayload hCarries
      have hNodup := m.nodup_names
      rw [hValues] at h hNodup
      rw [embedPayload_append hBefore] at h
      obtain ⟨t, -, rfl⟩ := Except.map_eq_ok_iff.mp h
      simpa using hNodup
  · cases h
    exact (List.filter_sublist.map Prod.fst).nodup m.nodup_names

/-- Without a payload, every field that is not null is on the wire as it is. -/
theorem lookup_body {m : Message} (hPlain : m.operation.carriesPayload = false)
    {fields : Entries Json} (h : m.body = .ok fields) (name : Text) :
    fields.lookup name = (m.field? name).filter fun v => !v.isNull := by
  rw [body, if_neg (by simp [hPlain])] at h
  cases h
  exact Entries.lookup_filter m.nodup_names (fun v => !v.isNull) name

/-- Beside a payload all fields are on the wire, null or not, and the payload
is there as text. -/
theorem lookup_body_of_carriesPayload {m : Message} (hCarries : m.operation.carriesPayload = true)
    {fields : Entries Json} (h : m.body = .ok fields) :
    ∃ p t, m.payload? = some p ∧ Payload.embed p = .ok t ∧
      fields.lookup (Text.ofString "msg") = some (.string t) ∧
      ∀ name, name ≠ Text.ofString "msg" → fields.lookup name = m.field? name := by
  obtain ⟨before, p, hValues, hBefore⟩ := namedValues_of_carriesPayload hCarries
  rw [body, if_pos hCarries, hValues, embedPayload_append hBefore] at h
  obtain ⟨t, hEmbed, rfl⟩ := Except.map_eq_ok_iff.mp h
  refine ⟨p, t, ?_, hEmbed, Entries.lookup_concat hBefore _, fun name hName => ?_⟩
  · rw [payload?, field?, hValues, Entries.lookup_concat hBefore]
  · rw [field?, hValues, List.lookup_append, List.lookup_append, Entries.lookup_cons,
      Entries.lookup_cons, if_neg hName, if_neg hName]

/-! ### Comparing -/

/-- Dropping nulls on both sides loses nothing: only null counts as null. -/
theorem sameOptional_filter_iff {x? y? : Option Json} (h : x?.isSome = y?.isSome) :
    Json.SameOptional (x?.filter fun v => !v.isNull) (y?.filter fun v => !v.isNull) ↔
      Json.SameOptional x? y? := by
  cases x? with
  | none => cases y? with
    | none => exact Iff.rfl
    | some y => cases h
  | some x => cases y? with
    | none => cases h
    | some y =>
        have hSome : Json.SameOptional (some x) (some y) ↔ x.same y = true := Option.rel_some_some
        rw [hSome]
        by_cases hx : x = .null
        · rw [hx, Json.null_same_iff]
          by_cases hy : y = .null <;>
            simp [Option.filter, Json.isNull, hy]
        · by_cases hy : y = .null <;>
            simp [Option.filter, Json.isNull_eq_false_iff, Json.same_null_iff, hx, hy]

/-- Messages are equal if they are of one operation and each field counts as
the same. -/
theorem same_iff {m n : Message} :
    m.same n = true ↔ m.operation = n.operation ∧
      ∀ name, Json.SameOptional (m.field? name) (n.field? name) := by
  rw [same, Bool.and_eq_true, decide_eq_true_eq, Json.sameElements_iff]
  refine and_congr_right fun hOperation => ?_
  have hNames : n.namedValues = (m.operation.fields.map (·.name)).zip n.values := by
    rw [namedValues, hOperation]
  have hComplete := n.complete
  rw [← hOperation] at hComplete
  simp only [field?, hNames]
  exact Entries.forall₂_iff_lookup m.operation.nodup_fields (by simp [m.complete])
    (by simp [hComplete])

/-- Two wire forms count as the same if their tags agree and their fields do, by
name. -/
theorem same_wire_iff {m n : Message} {fields fields' : Entries Json}
    (hm : m.body = .ok fields) (hn : n.body = .ok fields') :
    (Json.object [(m.operation.tag, .object fields)]).same
        (.object [(n.operation.tag, .object fields')]) = true ↔
      m.operation = n.operation ∧
        ∀ name, Json.SameOptional (fields.lookup name) (fields'.lookup name) := by
  rw [← Json.same_object_iff (nodup_body hm) (nodup_body hn)]
  by_cases h : m.operation = n.operation
  · simp [Json.same, Json.sameMembers, h]
  · have hTag : m.operation.tag ≠ n.operation.tag := fun hEq => h (Operation.tag_injective hEq)
    simp [Json.same, Json.sameMembers, Entries.lookup_cons, h, hTag]

/-- The fields beside a payload are compared one by one, and the payloads by
their binary forms. -/
theorem same_body_of_carriesPayload {m n : Message} (hOperation : m.operation = n.operation)
    (hCarries : m.operation.carriesPayload = true) (hmValues : ∀ x ∈ m.values, x.WellFormed)
    (hnValues : ∀ x ∈ n.values, x.WellFormed) {fields fields' : Entries Json}
    (hm : m.body = .ok fields) (hn : n.body = .ok fields') :
    (∀ name, Json.SameOptional (fields.lookup name) (fields'.lookup name)) ↔
      (∀ name, name ≠ Text.ofString "msg" →
        Json.SameOptional (m.field? name) (n.field? name)) ∧ m.payload? = n.payload? := by
  obtain ⟨p, t, hp, hpt, ht, hOthers⟩ := lookup_body_of_carriesPayload hCarries hm
  obtain ⟨q, u, hq, hqu, hu, hOthers'⟩ :=
    lookup_body_of_carriesPayload (hOperation ▸ hCarries) hn
  rw [hp, hq, Option.some.injEq]
  constructor
  · intro hSame
    refine ⟨fun name hName => ?_, ?_⟩
    · rw [← hOthers name hName, ← hOthers' name hName]
      exact hSame name
    · -- The binary forms are strings, and strings count as the same only if they are equal.
      have hTexts := hSame (Text.ofString "msg")
      rw [ht, hu] at hTexts
      obtain rfl : t = u := by simpa [Json.same, Json.sameScalar] using hTexts
      exact Payload.eq_of_embed (hmValues p (mem_values_of_field? hp))
        (hnValues q (mem_values_of_field? hq)) hpt hqu
  · rintro ⟨hSame, rfl⟩ name
    by_cases hName : name = Text.ofString "msg"
    · obtain rfl : t = u := Except.ok.inj (hpt.symm.trans hqu)
      rw [hName, ht, hu]
      exact .some (by simp [Json.same, Json.sameScalar])
    · rw [hOthers name hName, hOthers' name hName]
      exact hSame name hName

theorem payload?_of_plain {m : Message} (h : m.operation.carriesPayload = false) :
    m.payload? = none := by
  rw [payload?, ← Option.not_isSome_iff_eq_none, isSome_field?, Operation.msg_mem_fields_iff, h]
  exact Bool.false_ne_true

/-- Without a payload, what is missing on the wire is null. -/
theorem same_body_of_plain {m n : Message} (hOperation : m.operation = n.operation)
    (hPlain : m.operation.carriesPayload = false) {fields fields' : Entries Json}
    (hm : m.body = .ok fields) (hn : n.body = .ok fields') :
    (∀ name, Json.SameOptional (fields.lookup name) (fields'.lookup name)) ↔
      (∀ name, name ≠ Text.ofString "msg" →
        Json.SameOptional (m.field? name) (n.field? name)) ∧ m.payload? = n.payload? := by
  have hFields : ∀ name, (m.field? name).isSome = (n.field? name).isSome := by
    intro name
    rw [Bool.eq_iff_iff, isSome_field?, isSome_field?, hOperation]
  have hm' := payload?_of_plain hPlain
  have hn' := payload?_of_plain (hOperation ▸ hPlain)
  simp only [lookup_body hPlain hm, lookup_body (hOperation ▸ hPlain) hn,
    sameOptional_filter_iff (hFields _), hm', hn', and_true]
  refine ⟨fun hSame name _ => hSame name, fun hSame name => ?_⟩
  by_cases hName : name = Text.ofString "msg"
  · rw [payload?] at hm' hn'
    rw [hName, hm', hn']
    exact .none
  · exact hSame name hName

/-- Two wire forms are equal if and only if the messages are of one operation,
their fields other than the payload count as the same, and their payloads are
one value. So messages that differ never share a wire form. -/
theorem toJson_same_iff {m n : Message} {v w : Json} (hm : m.toJson = .ok v)
    (hn : n.toJson = .ok w) (hmValues : ∀ x ∈ m.values, x.WellFormed)
    (hnValues : ∀ x ∈ n.values, x.WellFormed) :
    (v.same w = true ↔ m.operation = n.operation ∧
      (∀ name, name ≠ Text.ofString "msg" →
        Json.SameOptional (m.field? name) (n.field? name)) ∧
      m.payload? = n.payload?) ∧
    (v.same w = true → m.same n = true) := by
  obtain ⟨fields, hmBody, rfl⟩ := toJson_eq_ok hm
  obtain ⟨fields', hnBody, rfl⟩ := toJson_eq_ok hn
  have hBodies : m.operation = n.operation →
      ((∀ name, Json.SameOptional (fields.lookup name) (fields'.lookup name)) ↔
        (∀ name, name ≠ Text.ofString "msg" →
          Json.SameOptional (m.field? name) (n.field? name)) ∧ m.payload? = n.payload?) := by
    intro hOperation
    cases hCarries : m.operation.carriesPayload with
    | true => exact same_body_of_carriesPayload hOperation hCarries hmValues hnValues hmBody hnBody
    | false => exact same_body_of_plain hOperation hCarries hmBody hnBody
  rw [same_wire_iff hmBody hnBody]
  refine ⟨and_congr_right hBodies, ?_⟩
  rintro ⟨hOperation, hSame⟩
  obtain ⟨hOthers, hPayload⟩ := (hBodies hOperation).mp hSame
  refine same_iff.mpr ⟨hOperation, fun name => ?_⟩
  by_cases hName : name = Text.ofString "msg"
  · rw [hName, ← payload?, ← payload?, ← hPayload]
    cases hp : m.payload? with
    | none => exact .none
    | some p => exact .some (Json.same_self (hmValues p (mem_values_of_field? hp)).distinctNames)
  · exact hOthers name hName

/-- An amount of one and an amount that is true share a wire form. A payload
whose members change places does not, though it counts as the same. -/
theorem toJson_same_iff_send :
    let m : Message := ⟨.send, [.null, .int 1, .object [("a", .null), ("b", .null)]], rfl⟩
    let n : Message := ⟨.send, [.null, .bool true, .object [("a", .null), ("b", .null)]], rfl⟩
    let o : Message := ⟨.send, [.null, .int 1, .object [("b", .null), ("a", .null)]], rfl⟩
    ∃ u v w, m.toJson = .ok u ∧ n.toJson = .ok v ∧ o.toJson = .ok w ∧
      u.same v = true ∧ u.same w = false ∧ m.same o = true := by
  intro m n o
  have hMembers : ∀ ms : List (Text × Json), (ms.map Prod.fst).Nodup →
      (∀ name ∈ ms.map Prod.fst, name.SurrogateFree) → (∀ x ∈ ms.map Prod.snd, x = .null) →
      (Json.object ms).WellFormed := fun ms hNames hTexts hNull =>
    (Json.Portable.object hNames hTexts fun x hx => hNull x hx ▸ .null).wellFormed
  have hValues : ∀ amount payload : Json, amount.Portable → payload.WellFormed →
      ∀ x ∈ [.null, amount, payload], x.WellFormed := by
    intro amount payload hAmount hPayload
    simpa using ⟨Json.Portable.null.wellFormed, hAmount.wellFormed, hPayload⟩
  have hm := hValues (.int 1) _ (.int (by decide))
    (hMembers [("a", .null), ("b", .null)] (by decide) (by decide) (by decide))
  have hn := hValues (.bool true) _ (.bool true)
    (hMembers [("a", .null), ("b", .null)] (by decide) (by decide) (by decide))
  have ho := hValues (.int 1) _ (.int (by decide))
    (hMembers [("b", .null), ("a", .null)] (by decide) (by decide) (by decide))
  have hmWire : m.toJson = .ok (.object [("send", .object [("recipient", .null),
      ("amount", .int 1), ("msg", .string "eyJhIjpudWxsLCJiIjpudWxsfQ==")])]) := by decide
  have hnWire : n.toJson = .ok (.object [("send", .object [("recipient", .null),
      ("amount", .bool true), ("msg", .string "eyJhIjpudWxsLCJiIjpudWxsfQ==")])]) := by decide
  have hoWire : o.toJson = .ok (.object [("send", .object [("recipient", .null),
      ("amount", .int 1), ("msg", .string "eyJiIjpudWxsLCJhIjpudWxsfQ==")])]) := by decide
  refine ⟨_, _, _, hmWire, hnWire, hoWire, ?_, ?_, by decide⟩
  · refine (toJson_same_iff hmWire hnWire hm hn).1.mpr ⟨rfl, fun name _ => ?_, rfl⟩
    simp only [field?, namedValues, m, n, Operation.fields, List.map_cons, List.map_nil,
      List.zip_cons_cons, List.zip_nil_left, Entries.lookup_cons]
    split
    · exact .some (by decide)
    split
    · exact .some (by decide)
    split
    · exact .some (by decide)
    · exact .none
  · rw [← Bool.not_eq_true, (toJson_same_iff hmWire hoWire hm ho).1]
    rintro ⟨-, -, hPayload⟩
    exact absurd hPayload (by decide)

end Message

end DemurrageToken
