import DemurrageToken.Proofs.ContractCalls

/-! Spellings of a call. Values may come by position or by name, the names in any
order, and what is null anyway may be left out. All of this is settled when
arguments are bound, so messages, fees and operations on a handle depend on the
values alone. What is no spelling is refused before anything is made of it. -/
namespace DemurrageToken

namespace Signature

variable {signature : Signature} {values : List Json} {arguments : Arguments}

/-! ### Spellings and misfits -/

/-- Parameters that get their values by name. One that is optional may be left
out if its value is null. -/
inductive Named : Signature → List Json → Entries Json → Prop where
  | nil : Named [] [] []
  | given {p : Parameter} {signature : Signature} {v : Json} {values : List Json}
      {entries : Entries Json} (rest : Named signature values entries) :
      Named (p :: signature) (v :: values) ((p.name, v) :: entries)
  | leftOut {p : Parameter} {signature : Signature} {values : List Json} {entries : Entries Json}
      (hOptional : p.optional = true) (rest : Named signature values entries) :
      Named (p :: signature) (.null :: values) entries

/-- Arguments that give a signature's parameters some values: the first ones by
position, in order, and the others by name, in any order. -/
structure Spells (signature : Signature) (values : List Json) (arguments : Arguments) : Prop where
  complete : values.length = signature.length
  positional : arguments.positional <+: values
  named : ∃ entries, Named (signature.drop arguments.positional.length)
    (values.drop arguments.positional.length) entries ∧ arguments.named.Perm entries

/-- The ways in which arguments fail to fit a signature. -/
inductive Misfits (signature : Signature) (arguments : Arguments) : Prop where
  | missing {p : Parameter} (hp : p ∈ signature.drop arguments.positional.length)
      (hRequired : p.optional = false) (hName : p.name ∉ arguments.named.map Prod.fst)
  | tooMany (hLength : signature.length < arguments.positional.length)
  | unknown {name : Text} (hName : name ∈ arguments.named.map Prod.fst)
      (hUnknown : name ∉ signature.map (·.name))
  | twice {p : Parameter} (hp : p ∈ signature.take arguments.positional.length)
      (hName : p.name ∈ arguments.named.map Prod.fst)

/-! ### Binding -/

/-- Entries that stand for values keep the order of the parameters. -/
theorem Named.names_sublist {entries : Entries Json} (h : Named signature values entries) :
    (entries.map Prod.fst).Sublist (signature.map (·.name)) := by
  induction h with
  | nil => exact .slnil
  | given _ ih => exact ih.cons_cons _
  | leftOut _ _ ih => exact ih.cons _

/-- Named arguments bind to the values that they stand for, in whatever order
they are looked up. -/
theorem Named.forall₂ {entries named : Entries Json} (h : Named signature values entries)
    (hNodup : (signature.map (·.name)).Nodup)
    (hLookup : ∀ p ∈ signature, named.lookup p.name = entries.lookup p.name) :
    List.Forall₂ (fun p v => namedValue? named p = some v) signature values := by
  induction h with
  | nil => exact .nil
  | @given p signature v values entries rest ih =>
      rw [List.map_cons, List.nodup_cons] at hNodup
      have hFirst := hLookup p (List.mem_cons_self ..)
      rw [Entries.lookup_cons, if_pos rfl] at hFirst
      refine .cons ?_ (ih hNodup.2 fun q hq => ?_)
      · rw [namedValue?, hFirst]
      · have hName : q.name ≠ p.name := fun hEq => hNodup.1 (hEq ▸ List.mem_map_of_mem hq)
        rw [hLookup q (List.mem_cons_of_mem _ hq), Entries.lookup_cons, if_neg hName]
  | @leftOut p signature values entries hOptional rest ih =>
      rw [List.map_cons, List.nodup_cons] at hNodup
      have hAbsent : entries.lookup p.name = none := Entries.notMem_names_iff.mp fun hMem =>
        hNodup.1 (rest.names_sublist.subset hMem)
      refine .cons ?_ (ih hNodup.2 fun q hq => hLookup q (List.mem_cons_of_mem _ hq))
      rw [namedValue?, hLookup p (List.mem_cons_self ..), hAbsent, hOptional]
      rfl

/-- Every spelling binds to the values that it spells. -/
theorem bind_of_spells (hNodup : (signature.map (·.name)).Nodup)
    (h : Spells signature values arguments) : signature.bind arguments = some values := by
  obtain ⟨hComplete, ⟨others, rfl⟩, entries, hNamed, hOrder⟩ := h
  rw [List.drop_left] at hNamed
  have hRest : ((signature.drop arguments.positional.length).map (·.name)).Nodup :=
    ((List.drop_sublist ..).map _).nodup hNodup
  have hNames := hNamed.names_sublist
  refine bind_eq_some_iff.mpr ⟨⟨?_, fun name hName => ?_⟩, others, ?_, rfl⟩
  · rw [← hComplete, List.length_append]
    omega
  · exact hNames.subset ((hOrder.map Prod.fst).subset hName)
  · exact hNamed.forall₂ hRest fun p _ => Entries.lookup_perm hOrder (hNames.nodup hRest) p.name

/-- The named arguments in the order of the parameters. -/
def inOrder (named : Entries Json) (signature : Signature) : Entries Json :=
  signature.filterMap fun p => (named.lookup p.name).map fun v => (p.name, v)

/-- Entries that were put in order stand for the values. -/
theorem named_inOrder {named : Entries Json}
    (h : List.Forall₂ (fun p v => namedValue? named p = some v) signature values) :
    Named signature values (inOrder named signature) := by
  induction h with
  | nil => exact .nil
  | @cons p v signature values hv rest ih =>
      rw [namedValue?] at hv
      rw [inOrder, List.filterMap_cons]
      cases hName : named.lookup p.name with
      | some w =>
          rw [hName] at hv
          cases hv
          exact .given ih
      | none =>
          rw [hName, Option.ite_none_right_eq_some] at hv
          obtain ⟨hOptional, hNull⟩ := hv
          cases hNull
          exact .leftOut hOptional ih

theorem perm_inOrder {named : Entries Json} (hNodup : (signature.map (·.name)).Nodup)
    (hDistinct : (named.map Prod.fst).Nodup)
    (hNames : ∀ name ∈ named.map Prod.fst, name ∈ signature.map (·.name))
    (hOrdered : Named signature values (inOrder named signature)) :
    named.Perm (inOrder named signature) := by
  have hNodupOrder := (hOrdered.names_sublist.nodup hNodup).of_map
  refine (List.perm_ext_iff_of_nodup hDistinct.of_map hNodupOrder).mpr ?_
  rintro ⟨name, v⟩
  simp only [inOrder, List.mem_filterMap, Option.map_eq_some_iff, Prod.mk.injEq]
  constructor
  · intro hMem
    obtain ⟨p, hp, rfl⟩ := List.mem_map.mp (hNames name (List.mem_map_of_mem hMem))
    exact ⟨p, hp, v, Entries.lookup_of_mem hDistinct hMem, rfl, rfl⟩
  · rintro ⟨p, -, w, hLookup, rfl, rfl⟩
    exact Entries.mem_of_lookup hLookup

/-- Arguments that fit are a spelling of the values that they give. -/
theorem spells_of_bind (hNodup : (signature.map (·.name)).Nodup)
    (hDistinct : (arguments.named.map Prod.fst).Nodup)
    (h : signature.bind arguments = some values) : Spells signature values arguments := by
  have hComplete := length_of_bind h
  obtain ⟨⟨-, hNames⟩, others, hOthers, rfl⟩ := bind_eq_some_iff.mp h
  have hOrdered := named_inOrder hOthers
  have hRest := ((List.drop_sublist arguments.positional.length signature).map
    (fun p : Parameter => p.name)).nodup hNodup
  refine ⟨hComplete, List.prefix_append .., _, ?_, perm_inOrder hRest hDistinct hNames hOrdered⟩
  rwa [List.drop_left]

theorem isSome_of_forall₂ {named : Entries Json}
    (h : List.Forall₂ (fun p v => namedValue? named p = some v) signature values) :
    ∀ p ∈ signature, (namedValue? named p).isSome = true := by
  induction h with
  | nil => simp
  | cons hv _ ih => exact List.forall_mem_cons.mpr ⟨Option.isSome_of_eq_some hv, ih⟩

/-- Arguments that misfit bind to nothing. -/
theorem bind_of_misfits (hNodup : (signature.map (·.name)).Nodup)
    (h : Misfits signature arguments) : signature.bind arguments = none := by
  cases hBind : signature.bind arguments with
  | none => rfl
  | some values =>
      exfalso
      obtain ⟨⟨hLength, hNames⟩, others, hOthers, -⟩ := bind_eq_some_iff.mp hBind
      cases h with
      | @missing p hp hRequired hName =>
          have hValue := isSome_of_forall₂ hOthers p hp
          rw [namedValue?, Entries.notMem_names_iff.mp hName, hRequired] at hValue
          cases hValue
      | tooMany hTooMany => omega
      | unknown hName hUnknown =>
          exact hUnknown (((List.drop_sublist ..).map _).subset (hNames _ hName))
      | @twice p hp hName =>
          rw [← List.take_append_drop arguments.positional.length signature, List.map_append,
            List.nodup_append] at hNodup
          exact hNodup.2.2 p.name (List.mem_map_of_mem hp) p.name (hNames _ hName) rfl

/-- Arguments that bind to nothing misfit in one of the four ways. -/
theorem misfits_of_bind (h : signature.bind arguments = none) : Misfits signature arguments := by
  by_contra hFits
  have hLength : arguments.positional.length ≤ signature.length := by
    by_contra hLong
    exact hFits (.tooMany (by omega))
  have hNames : ∀ name ∈ arguments.named.map Prod.fst,
      name ∈ (signature.drop arguments.positional.length).map (·.name) := by
    intro name hName
    have hKnown : name ∈ signature.map (·.name) := by
      by_contra hUnknown
      exact hFits (.unknown hName hUnknown)
    -- A known name that is not left for the named arguments has a value by position.
    rw [← List.take_append_drop arguments.positional.length signature, List.map_append,
      List.mem_append] at hKnown
    refine hKnown.resolve_left fun hTaken => ?_
    obtain ⟨p, hp, rfl⟩ := List.mem_map.mp hTaken
    exact hFits (.twice hp hName)
  have hValues : ∀ p ∈ signature.drop arguments.positional.length,
      (namedValue? arguments.named p).isSome = true := by
    intro p hp
    refine isSome_namedValue? ?_
    by_contra hNone
    rw [not_or, Bool.not_eq_true] at hNone
    exact hFits (.missing hp hNone.1 hNone.2)
  obtain ⟨others, hOthers⟩ := exists_values hValues
  rw [bind_eq_some_iff.mpr ⟨⟨hLength, hNames⟩, others, hOthers, rfl⟩] at h
  cases h

/-- Arguments whose names differ are a spelling of some values, or they misfit. -/
theorem spells_or_misfits (hNodup : (signature.map (·.name)).Nodup)
    (hDistinct : (arguments.named.map Prod.fst).Nodup) :
    (∃ values, Spells signature values arguments) ∨ Misfits signature arguments := by
  cases hBind : signature.bind arguments with
  | none => exact .inr (misfits_of_bind hBind)
  | some values => exact .inl ⟨values, spells_of_bind hNodup hDistinct hBind⟩

end Signature

/-! ### What calls come to -/

open Signature

/-- The signatures of everything that can be called: the messages, the
operations on a handle, and the flat fee. -/
inductive Offered : Signature → Prop where
  | message (operation : Operation) : Offered operation.fields
  | operation (operation : Operation) : Offered operation.parameters
  | fee : Offered Fee.flatSignature

/-- No signature has two parameters of one name. -/
theorem Offered.nodup {signature : Signature} (h : Offered signature) :
    (signature.map (·.name)).Nodup := by
  cases h with
  | message operation => exact operation.nodup_fields
  | operation operation => cases operation <;> decide
  | fee => decide

theorem Message.ofArguments?_of_bind {operation : Operation} {arguments : Arguments}
    {values : List Json} (h : operation.fields.bind arguments = some values) :
    ∃ complete, ofArguments? operation arguments = some ⟨operation, values, complete⟩ := by
  refine ⟨length_of_bind h, ?_⟩
  rw [ofArguments?, h, Option.bind_some, ofValues?, dif_pos (length_of_bind h)]

theorem Fee.ofArguments?_of_bind {arguments : Arguments} {values : List Json}
    (h : flatSignature.bind arguments = some values) :
    ∃ denom amount gas, values = [denom, amount, gas] ∧
      ofArguments? arguments = some (flat denom amount gas) := by
  obtain ⟨denom, amount, gas, rfl⟩ := List.length_eq_three.mp (length_of_bind h)
  exact ⟨denom, amount, gas, rfl, by rw [ofArguments?, h]⟩

section

variable {Sent Failure : Type} (handle : Handle) (client : Call → Outcome Sent Failure Answer)
  {operation : Operation} {arguments others : Arguments}

/-- An operation sees nothing of its arguments but what they bind to. -/
theorem Handle.invoke_congr
    (h : operation.parameters.bind arguments = operation.parameters.bind others) :
    handle.invoke client operation arguments = handle.invoke client operation others := by
  have hMessage : operation.messageOf? arguments = operation.messageOf? others := by
    rw [Operation.messageOf?, Operation.messageOf?, h]
  have hAmounts : operation.hasAmountTexts arguments = operation.hasAmountTexts others := by
    rw [Operation.hasAmountTexts, Operation.hasAmountTexts, h]
  rw [invoke, invoke, prepare, prepare, hMessage, hAmounts]

theorem Handle.invoke_of_bind (h : operation.parameters.bind arguments = none) :
    handle.invoke client operation arguments = .refuse (.refused .arguments) := by
  have hMessage : operation.messageOf? arguments = none := by
    rw [Operation.messageOf?, h]
    rfl
  rw [invoke, prepare, hMessage]

end

/-- Values that are all given by position bind to themselves. -/
theorem Signature.bind_positional {signature : Signature} {values : List Json}
    (h : values.length = signature.length) : signature.bind ⟨values, []⟩ = some values := by
  refine bind_eq_some_iff.mpr ⟨⟨h.le, by simp⟩, [], ?_, List.append_nil _⟩
  rw [List.drop_eq_nil_of_le h.ge]
  exact .nil

/-- All spellings of a call agree. They make the message and the fee of the
values, and an operation on a handle, whatever its client, does what it does with
all values by position. Other arguments miss a required parameter, are too many,
have an unknown name or give a parameter twice; they are refused, and no client
sees a call. -/
theorem spellings_agree (arguments : Arguments) :
    (∀ operation : Operation,
      (∀ values, Spells operation.fields values arguments → ∃ complete,
        Message.ofArguments? operation arguments = some ⟨operation, values, complete⟩) ∧
      (Misfits operation.fields arguments → Message.ofArguments? operation arguments = none)) ∧
    ((∀ values, Spells Fee.flatSignature values arguments → ∃ denom amount gas,
        values = [denom, amount, gas] ∧
          Fee.ofArguments? arguments = some (Fee.flat denom amount gas)) ∧
      (Misfits Fee.flatSignature arguments → Fee.ofArguments? arguments = none)) ∧
    (∀ operation : Operation,
      (∀ values, Spells operation.parameters values arguments →
        (∃ sender? tag slots, ∃ row : Asks operation values sender? tag slots,
          operation.messageOf? arguments = some (sender?, row.message)) ∧
        ∀ (Sent Failure : Type) (handle : Handle) (client : Call → Outcome Sent Failure Answer),
          handle.invoke client operation arguments =
            handle.invoke client operation ⟨values, []⟩) ∧
      (Misfits operation.parameters arguments →
        ∀ (Sent Failure : Type) (handle : Handle) (client : Call → Outcome Sent Failure Answer),
          handle.invoke client operation arguments = .refuse (.refused .arguments))) ∧
    ((arguments.named.map Prod.fst).Nodup → ∀ signature, Offered signature →
      (∃ values, Spells signature values arguments) ∨ Misfits signature arguments) := by
  refine ⟨fun operation => ⟨fun values hSpells => ?_, fun hMisfits => ?_⟩,
    ⟨fun values hSpells => ?_, fun hMisfits => ?_⟩,
    fun operation => ⟨fun values hSpells => ?_, fun hMisfits => ?_⟩, ?_⟩
  · exact Message.ofArguments?_of_bind (bind_of_spells (Offered.message operation).nodup hSpells)
  · rw [Message.ofArguments?, bind_of_misfits (Offered.message operation).nodup hMisfits]
    rfl
  · exact Fee.ofArguments?_of_bind (bind_of_spells Offered.fee.nodup hSpells)
  · rw [Fee.ofArguments?, bind_of_misfits Offered.fee.nodup hMisfits]
  · have hBind := bind_of_spells (Offered.operation operation).nodup hSpells
    obtain ⟨sender?, tag, slots, row⟩ := exists_asks hSpells.complete
    refine ⟨⟨sender?, tag, slots, row, row.messageOf?_eq hBind⟩, fun Sent Failure handle client =>
      handle.invoke_congr client ?_⟩
    rw [hBind, bind_positional hSpells.complete]
  · intro Sent Failure handle client
    exact handle.invoke_of_bind client
      (bind_of_misfits (Offered.operation operation).nodup hMisfits)
  · exact fun hDistinct signature hOffered => spells_or_misfits hOffered.nodup hDistinct

/-- Names in another order, a null that is left out, and a parameter that is
given twice. -/
theorem spellings_agree_named :
    (∀ (Sent Failure : Type) (handle : Handle) (client : Call → Outcome Sent Failure Answer),
      handle.invoke client .transferFrom ⟨[.string "s"],
          [("amount", .int 5), ("recipient", .string "r"), ("owner", .string "o")]⟩ =
        handle.invoke client .transferFrom
          ⟨[.string "s", .string "o", .string "r", .int 5], []⟩) ∧
    (∃ complete, Message.ofArguments? .allAllowances ⟨[.string "o"], [("limit", .int 0)]⟩ =
      some ⟨.allAllowances, [.string "o", .null, .int 0], complete⟩) ∧
    Fee.ofArguments? ⟨[.string "d", .int 1, .int 2], [("denom", .string "d")]⟩ = none := by
  have hTransfer : Spells Operation.transferFrom.parameters
      [.string "s", .string "o", .string "r", .int 5] ⟨[.string "s"],
        [("amount", .int 5), ("recipient", .string "r"), ("owner", .string "o")]⟩ :=
    ⟨rfl, ⟨_, rfl⟩, _, .given (.given (.given .nil)), by decide⟩
  have hLimit : Spells Operation.allAllowances.fields [.string "o", .null, .int 0]
      ⟨[.string "o"], [("limit", .int 0)]⟩ :=
    ⟨rfl, ⟨_, rfl⟩, _, .leftOut rfl (.given .nil), .refl _⟩
  have hTwice : Misfits Fee.flatSignature
      ⟨[.string "d", .int 1, .int 2], [("denom", .string "d")]⟩ :=
    .twice (List.mem_cons_self ..) (List.mem_cons_self ..)
  exact ⟨(((spellings_agree _).2.2.1 .transferFrom).1 _ hTransfer).2,
    ((spellings_agree _).1 .allAllowances).1 _ hLimit, (spellings_agree _).2.1.2 hTwice⟩

end DemurrageToken
