import DemurrageToken.Proofs.SettingsFrame

/-! Loading that fails. Bytes that are no UTF-8 change nothing. A variable that
the platform refuses is found only when its turn comes: by then the names before
it are set, and nothing takes them back. -/
namespace DemurrageToken.Settings

/-! ### Refused variables -/

/-- Why the platform takes no variable of a name and a value. -/
inductive Refused (name value : Text) : Fault → Prop where
  | zeroCharacter (h : .scalar '\x00' ∈ name ∨ .scalar '\x00' ∈ value) :
      Refused name value .zeroCharacter
  | badName (hEquals : .scalar '=' ∈ name) (hName : .scalar '\x00' ∉ name)
      (hValue : .scalar '\x00' ∉ value) : Refused name value .badName

/-- A variable is refused for its name or for a zero character in its value, and for
nothing else. -/
theorem setVariable_eq_error_iff {environment : Environment} {name value : Text} {fault : Fault} :
    setVariable environment name value = .error fault ↔ Refused name value fault := by
  constructor
  · intro h
    unfold setVariable at h
    split_ifs at h with hZero hEquals
    · cases h
      exact .zeroCharacter (by simpa using hZero)
    · cases h
      rw [Bool.or_eq_true, not_or] at hZero
      exact .badName (by simpa using hEquals) (by simpa using hZero.1) (by simpa using hZero.2)
  · rintro (hZero | ⟨hEquals, hName, hValue⟩)
    · rw [setVariable, if_pos (by simpa using hZero)]
    · rw [setVariable, if_neg (by simp [hName, hValue]), if_pos (by simpa using hEquals)]

/-- An entry of a table that loading has to set, and that the platform takes. -/
def Passes (given : Environment) (entry : Text × Option Text) : Prop :=
  given.lookup entry.1 = none → ∀ value, entry.2 = some value →
    ∀ fault, ¬Refused entry.1 value fault

/-- Setting variables stops at the first entry that is refused, with the ones
before it set as if they were all. -/
theorem setVariables_eq_fault {given environment loaded : Environment}
    {table : Entries (Option Text)} {fault : Fault}
    (h : setVariables given environment table = (loaded, some fault)) :
    ∃ before name value after, table = before ++ (name, some value) :: after ∧
      setVariables given environment before = (loaded, none) ∧
      (∀ entry ∈ before, Passes given entry) ∧ given.lookup name = none ∧
      Refused name value fault := by
  induction table generalizing environment with
  | nil => cases h
  | cons entry table ih =>
      obtain ⟨present, value?⟩ := entry
      cases value? with
      | none =>
          obtain ⟨before, name, value, after, rfl, hBefore, hPasses, hStop⟩ := ih h
          refine ⟨(present, none) :: before, name, value, after, rfl, hBefore, ?_, hStop⟩
          refine List.forall_mem_cons.mpr ⟨?_, hPasses⟩
          rintro - value' ⟨⟩
      | some text =>
          rw [setVariables] at h
          split at h
          · next hGiven =>
              obtain ⟨before, name, value, after, rfl, hBefore, hPasses, hStop⟩ := ih h
              refine ⟨(present, some text) :: before, name, value, after, rfl, ?_, ?_, hStop⟩
              · rw [setVariables, if_pos hGiven, hBefore]
              · refine List.forall_mem_cons.mpr ⟨fun hNone => ?_, hPasses⟩
                rw [hNone] at hGiven
                cases hGiven
          · next hGiven =>
              split at h
              · next refusal hRefusal =>
                  cases h
                  exact ⟨[], present, text, table, rfl, rfl, List.forall_mem_nil _,
                    Option.not_isSome_iff_eq_none.mp hGiven, setVariable_eq_error_iff.mp hRefusal⟩
              · next extended hSet =>
                  obtain ⟨before, name, value, after, rfl, hBefore, hPasses, hStop⟩ := ih h
                  refine ⟨(present, some text) :: before, name, value, after, rfl, ?_, ?_, hStop⟩
                  · rw [setVariables, if_neg hGiven, hSet]
                    exact hBefore
                  · refine List.forall_mem_cons.mpr ⟨?_, hPasses⟩
                    rintro - value' ⟨⟩ refusal hRefused
                    rw [setVariable_eq_error_iff.mpr hRefused] at hSet
                    cases hSet

/-! ### The order of the names -/

/-- Bindings are resolved to a table of their names in the order of the first
ones. -/
theorem names_resolve (environment : Environment) (bs : List Binding) :
    (resolve environment bs).map Prod.fst = (bs.map Binding.name).eraseDups := by
  induction bs using List.reverseRecOn with
  | nil => rfl
  | append_singleton bs b ih =>
      rw [resolve_concat, List.map_append]
      exact Entries.names_put_of_eraseDups ih b.name _

/-- What a stop at a name leaves. The names before it, in the order of their
first bindings, are resolved as in a loading that goes through; the name itself
and all others are as they were. -/
structure Stopped (environment : Environment) (bs : List Binding) (before : List Text)
    (name : Text) (fault : Fault) (loaded : Environment) : Prop where
  order : ∃ after, (bs.map Binding.name).eraseDups = before ++ name :: after
  absent : environment.lookup name = none
  refused : ∃ value, fileValue? environment bs name = some value ∧ Refused name value fault
  passed : ∀ other ∈ before, Passes environment (other, fileValue? environment bs other)
  earlier : ∀ other ∈ before, loaded.lookup other = resolved? environment bs other
  others : ∀ other ∉ before, loaded.lookup other = environment.lookup other

/-- Where setting stops, the names before have been set and the others have not. -/
theorem stopped_of_setVariables {environment loaded : Environment} {bs : List Binding}
    {fault : Fault}
    (h : setVariables environment environment (resolve environment bs) = (loaded, some fault)) :
    ∃ before name, Stopped environment bs before name fault loaded := by
  obtain ⟨before, name, value, after, hTable, hBefore, hPasses, hAbsent, hRefused⟩ :=
    setVariables_eq_fault h
  have hNodup := nodup_names_resolve environment bs
  have hOrder := names_resolve environment bs
  rw [hTable, List.map_append, List.map_cons] at hNodup hOrder
  have hNodupBefore := hNodup.of_append_left
  have hFile : ∀ other ∈ before.map Prod.fst,
      (before.lookup other).join = fileValue? environment bs other := by
    intro other hOther
    obtain ⟨value?, hValue⟩ := Option.isSome_iff_exists.mp ((Entries.mem_names_iff ..).mp hOther)
    rw [← lookup_resolve, hTable, List.lookup_append, hValue, Option.some_or]
  have hLookup := lookup_setVariables hNodupBefore hBefore
  refine ⟨before.map Prod.fst, name, ⟨_, hOrder.symm⟩, hAbsent, ⟨value, ?_, hRefused⟩, ?_, ?_, ?_⟩
  · have hMem : (name, some value) ∈ resolve environment bs := by
      rw [hTable]
      simp
    rw [← lookup_resolve, mem_resolve hMem, Option.join_some]
  · intro other hOther
    obtain ⟨entry, hEntry, rfl⟩ := List.mem_map.mp hOther
    rw [← hFile _ hOther, Entries.lookup_of_mem hNodupBefore hEntry, Option.join_some]
    exact hPasses entry hEntry
  · intro other hOther
    rw [hLookup, hFile other hOther, resolved?]
    cases environment.lookup other <;> simp
  · intro other hOther
    rw [hLookup, Entries.notMem_names_iff.mp hOther, Option.join_none, Option.none_or, ite_self]

/-! ### Loading that fails -/

/-- If loading fails, either the bytes are no UTF-8 and the environment is what
it was, or a variable is refused: then the names of the file before it are set
where the environment has no such variable, and nothing else has moved. -/
theorem load_fault {environment loaded : Environment} {source : Source} {fault : Fault}
    (h : load environment source = (loaded, some fault)) :
    ∃ content, source = .file content ∧
      ((∃ malformed, Utf8.decode content = .error malformed ∧ fault = .undecodable malformed ∧
          loaded = environment) ∨
        ∃ t before name, Utf8.decode content = .ok t ∧
          Stopped environment (bindings (textOf t)) before name fault loaded) := by
  cases hDisabled : isDisabled environment with
  | true =>
      rw [load_disabled hDisabled] at h
      cases h
  | false =>
      cases source with
      | missing =>
          rw [load_nothing _ rfl] at h
          cases h
      | directory =>
          rw [load_nothing _ rfl] at h
          cases h
      | file content =>
          refine ⟨content, rfl, ?_⟩
          cases hDecode : Utf8.decode content with
          | error malformed =>
              rw [load_undecodable hDisabled hDecode] at h
              cases h
              exact .inl ⟨malformed, rfl, rfl, rfl⟩
          | ok t =>
              rw [load_file hDisabled hDecode] at h
              obtain ⟨before, name, hStopped⟩ := stopped_of_setVariables h
              exact .inr ⟨t, before, name, rfl, hStopped⟩

/-- The name `a=b` is refused when `A` is set and `C` is not. The variable `B`
keeps its value. -/
theorem load_fault_name :
    let t : Text := "A=1\nB=2\n'a=b'=x\nC=3\nA=4\n"
    let environment : Environment := [("B", "0")]
    let loaded : Environment := [("B", "0"), ("A", "4")]
    load environment (.file (t.flatMap Utf8.encodeCodePoint)) = (loaded, some .badName) ∧
      ∃ before name, Stopped environment (bindings (textOf t)) before name .badName loaded := by
  intro t environment loaded
  have hLoad : load environment (.file (t.flatMap Utf8.encodeCodePoint)) =
      (loaded, some .badName) := by
    decide +kernel
  have hDecode : Utf8.decode (t.flatMap Utf8.encodeCodePoint) = .ok t :=
    Utf8.decode_eq_ok_iff.mpr ⟨by decide, rfl⟩
  obtain ⟨content, hContent, hCases⟩ := load_fault hLoad
  obtain rfl := Source.file.inj hContent
  rcases hCases with ⟨malformed, hMalformed, -⟩ | ⟨u, before, name, hu, hStopped⟩
  · rw [hDecode] at hMalformed
    cases hMalformed
  · rw [hDecode] at hu
    cases hu
    exact ⟨hLoad, before, name, hStopped⟩

/-- A fault does not bring back what was there before: the name `a=b` is
refused, and `A` stays set. -/
theorem load_leaves_earlier :
    let t : Text := "A=1\n'a=b'=x\n"
    let loaded : Environment := [("A", "1")]
    load [] (.file (t.flatMap Utf8.encodeCodePoint)) = (loaded, some .badName) ∧ loaded ≠ [] := by
  decide +kernel

end DemurrageToken.Settings
