import DemurrageToken.Fee
import DemurrageToken.Proofs.Except
import DemurrageToken.Proofs.SettingsExpansion
import DemurrageToken.Proofs.Utf8
import DemurrageToken.Settings.Load
import Mathlib.Tactic.SplitIfs
import Mathlib.Tactic.Tauto

/-! Loading settings: the environment wins over the file, the file's last
values fill the gaps, and nothing else moves. -/
namespace DemurrageToken

/-- A process environment holds no value with a zero character. -/
def Environment.ZeroFree (environment : Environment) : Prop :=
  ∀ name value, environment.lookup name = some value → .scalar '\x00' ∉ value

namespace Settings

/-- A binding that the platform accepts as a variable. -/
structure Binding.Settable (b : Binding) : Prop where
  noEquals : .scalar '=' ∉ b.name
  noZero : .scalar '\x00' ∉ b.name
  valueNoZero : ∀ value, b.value = some value → .scalar '\x00' ∉ value

instance (b : Binding) : Decidable b.Settable :=
  decidable_of_iff (.scalar '=' ∉ b.name ∧ .scalar '\x00' ∉ b.name ∧
      ∀ value ∈ b.value, .scalar '\x00' ∉ value)
    ⟨fun ⟨hEquals, hZero, hValue⟩ => ⟨hEquals, hZero, hValue⟩,
      fun h => ⟨h.noEquals, h.noZero, h.valueNoZero⟩⟩

/-! ### Values without zero characters -/

/-- Expanding adds no zero character if none is there to be taken over. -/
theorem zero_notMem_expand {environment : Environment} (hEnvironment : environment.ZeroFree)
    {bound : Entries (Option Text)}
    (hBound : ∀ name value, bound.lookup name = some (some value) → .scalar '\x00' ∉ value)
    {t : Text} (ht : .scalar '\x00' ∉ t) : .scalar '\x00' ∉ expand environment bound t := by
  intro hMem
  rcases mem_expand hMem with h | ⟨name, value, hValue, h⟩ | ⟨name, value, hValue, h⟩
  · exact ht h
  · exact hEnvironment name value hValue h
  · exact hBound name value hValue h

/-- What the bindings amount to has no zero character if neither they nor the
environment have one. -/
theorem zero_notMem_resolve {environment : Environment} (hEnvironment : environment.ZeroFree)
    {bs : List Binding} (hBindings : ∀ b ∈ bs, b.Settable) {name value : Text}
    (h : (resolve environment bs).lookup name = some (some value)) :
    .scalar '\x00' ∉ value := by
  induction bs using List.reverseRecOn generalizing name value with
  | nil => cases h
  | append_singleton bs b ih =>
      have hEarlier := fun {name value} => @ih (fun c hc => hBindings c (by simp [hc])) name value
      rw [resolve_concat, Entries.lookup_put] at h
      split at h
      · obtain ⟨text, hText, rfl⟩ := Option.map_eq_some_iff.mp (Option.some.inj h)
        have hRaw := (hBindings b (by simp)).valueNoZero text hText
        exact zero_notMem_expand hEnvironment (fun _ _ => hEarlier) hRaw
      · exact hEarlier h

/-! ### Setting variables -/

/-- The platform takes a name without equals sign, and no zero character. -/
theorem setVariable_eq_ok_iff {environment extended : Environment} {name value : Text} :
    setVariable environment name value = .ok extended ↔
      (.scalar '=' ∉ name ∧ .scalar '\x00' ∉ name ∧ .scalar '\x00' ∉ value) ∧
        environment.put name value = extended := by
  unfold setVariable
  split_ifs <;> simp_all
  tauto

/-- Loading step by step: the given environment keeps its variables, and every
other name takes the value that the table has for it. -/
theorem lookup_setVariables {given environment loaded : Environment}
    {table : Entries (Option Text)} (hNodup : (table.map Prod.fst).Nodup)
    (h : setVariables given environment table = (loaded, none)) (name : Text) :
    loaded.lookup name =
      if (given.lookup name).isSome then environment.lookup name
      else (table.lookup name).join.or (environment.lookup name) := by
  induction table generalizing environment with
  | nil =>
      cases h
      simp
  | cons entry table ih =>
      obtain ⟨present, value?⟩ := entry
      rw [List.map_cons, List.nodup_cons, Entries.notMem_names_iff] at hNodup
      rw [Entries.lookup_cons]
      cases value? with
      | none =>
          rw [ih hNodup.2 h]
          split
          · rfl
          · split
            · next hName => rw [hName, hNodup.1]; rfl
            · rfl
      | some value =>
          rw [setVariables] at h
          split at h
          · next hGiven =>
              rw [ih hNodup.2 h]
              split
              · rfl
              · next hAbsent =>
                  have hName : name ≠ present := fun hEq => hAbsent (hEq ▸ hGiven)
                  rw [if_neg hName]
          · next hGiven =>
              split at h
              · cases h
              · next extended hSet =>
                  obtain ⟨-, rfl⟩ := setVariable_eq_ok_iff.mp hSet
                  rw [ih hNodup.2 h, Entries.lookup_put]
                  by_cases hName : name = present
                  · subst hName
                    simp [hGiven, hNodup.1]
                  · simp only [if_neg hName]

/-- Loading goes through if every variable that it sets is accepted. -/
theorem setVariables_eq_ok {given environment : Environment} {table : Entries (Option Text)}
    (hTable : ∀ name value, (name, some value) ∈ table →
      .scalar '=' ∉ name ∧ .scalar '\x00' ∉ name ∧ .scalar '\x00' ∉ value) :
    ∃ loaded, setVariables given environment table = (loaded, none) := by
  induction table generalizing environment with
  | nil => exact ⟨environment, rfl⟩
  | cons entry table ih =>
      obtain ⟨present, value?⟩ := entry
      have hRest := fun {environment} => @ih environment fun name value h =>
        hTable name value (List.mem_cons_of_mem _ h)
      cases value? with
      | none => exact hRest
      | some value =>
          rw [setVariables]
          split
          · exact hRest
          · have hSet := (@setVariable_eq_ok_iff environment _ _ _).mpr
              ⟨hTable present value (List.mem_cons_self ..), rfl⟩
            rw [hSet]
            exact hRest

/-- Nothing is set again that the given environment has already. -/
theorem setVariables_of_given {given environment : Environment} {table : Entries (Option Text)}
    (hGiven : ∀ name value, (name, some value) ∈ table → (given.lookup name).isSome = true) :
    setVariables given environment table = (environment, none) := by
  induction table with
  | nil => rfl
  | cons entry table ih =>
      obtain ⟨present, value?⟩ := entry
      have hRest := ih fun name value h => hGiven name value (List.mem_cons_of_mem _ h)
      cases value? with
      | none => exact hRest
      | some value =>
          rw [setVariables, if_pos (hGiven present value (List.mem_cons_self ..)), hRest]

/-! ### Loading -/

/-- Switched off, loading changes nothing, whatever the file is. -/
theorem load_disabled {environment : Environment} (h : isDisabled environment = true)
    (source : Source) : load environment source = (environment, none) := by
  rw [load, if_pos h]

/-- Bytes that are no UTF-8 change nothing, and are the fault. -/
theorem load_undecodable {environment : Environment} (hEnabled : isDisabled environment = false)
    {content : Bytes} {fault : Utf8.IllFormed} (h : Utf8.decode content = .error fault) :
    load environment (.file content) = (environment, some (.undecodable fault)) := by
  simp [load, hEnabled, Source.text?, h, Except.map]

/-- Where no file is, the text is empty and has no bindings. -/
theorem load_nothing (environment : Environment) {source : Source} (h : source.text? = .ok []) :
    load environment source = (environment, none) := by
  unfold load
  rw [h]
  split <;> rfl

theorem load_file {environment : Environment} (hEnabled : isDisabled environment = false)
    {content : Bytes} {t : Text} (ht : Utf8.decode content = .ok t) :
    load environment (.file content) =
      setVariables environment environment (resolve environment (bindings (textOf t))) := by
  simp [load, hEnabled, Source.text?, ht, Except.map]

theorem mem_resolve {environment : Environment} {bs : List Binding} {name : Text}
    {value? : Option Text} (h : (name, value?) ∈ resolve environment bs) :
    (resolve environment bs).lookup name = some value? :=
  Entries.lookup_of_mem (nodup_names_resolve environment bs) h

/-- A name is resolved to its variable, or else to its last value in the file. -/
def resolved? (environment : Environment) (bs : List Binding) (name : Text) : Option Text :=
  (environment.lookup name).or (fileValue? environment bs name)

/-- After loading, every name has the value that is resolved for it. -/
theorem lookup_of_load {environment loaded : Environment} {bs : List Binding}
    (h : setVariables environment environment (resolve environment bs) = (loaded, none))
    (name : Text) : loaded.lookup name = resolved? environment bs name := by
  rw [lookup_setVariables (nodup_names_resolve environment bs) h, lookup_resolve, resolved?]
  cases environment.lookup name <;> simp

/-- Which names the file gives a value does not depend on the environment. -/
theorem isSome_fileValue? (environment other : Environment) (bs : List Binding) (name : Text) :
    (fileValue? environment bs name).isSome = (fileValue? other bs name).isSome := by
  induction bs using List.reverseRecOn with
  | nil => rfl
  | append_singleton bs b ih =>
      rw [fileValue?_concat, fileValue?_concat]
      split
      · rw [Option.isSome_map, Option.isSome_map]
      · exact ih

/-- Setting the same variables again changes nothing, as all of them are there by
now. -/
theorem setVariables_again {environment loaded : Environment} {bs : List Binding}
    (h : setVariables environment environment (resolve environment bs) = (loaded, none)) :
    setVariables loaded loaded (resolve loaded bs) = (loaded, none) := by
  refine setVariables_of_given fun name value hMem => ?_
  have hValue : fileValue? loaded bs name = some value := by
    rw [← lookup_resolve, mem_resolve hMem]
    rfl
  rw [lookup_of_load h, resolved?, Option.isSome_or, isSome_fileValue? environment loaded, hValue]
  exact Bool.or_true _

/-- Settable bindings are set without a fault, in an environment without zero
characters. -/
theorem setVariables_resolve {environment : Environment} (hEnvironment : environment.ZeroFree)
    {bs : List Binding} (hBindings : ∀ b ∈ bs, b.Settable) :
    ∃ loaded, setVariables environment environment (resolve environment bs) = (loaded, none) := by
  refine setVariables_eq_ok fun name value hMem => ?_
  obtain ⟨b, hb, rfl⟩ := List.mem_map.mp (mem_names_resolve (List.mem_map_of_mem hMem))
  exact ⟨(hBindings b hb).noEquals, (hBindings b hb).noZero,
    zero_notMem_resolve hEnvironment hBindings (mem_resolve hMem)⟩

/-! ### The frame -/

/-- What a file with some bindings makes of an environment: the last binding
of a name fills a gap if it has a value, other names stay as they are, and the
settings of the client are read off accordingly. -/
structure Loaded (environment : Environment) (bs : List Binding) (loaded : Environment) :
    Prop where
  last : ∀ before b after, bs = before ++ b :: after → b.name ∉ after.map Binding.name →
    loaded.lookup b.name = (environment.lookup b.name).or
      (b.value.map (expand environment (resolve environment before)))
  other : ∀ name, name ∉ bs.map Binding.name → loaded.lookup name = environment.lookup name
  nodeUrl : loaded.nodeUrl =
    (resolved? environment bs "DEMURRAGE_LCD_URL").getD Environment.defaultNodeUrl
  contract : loaded.contract? =
    (resolved? environment bs "DEMURRAGE_CONTRACT").filter (· ≠ [])
  fee : Fee.ofEnvironment loaded =
    ⟨[⟨.string ((resolved? environment bs "DEMURRAGE_FEE_DENOM").getD Fee.defaultDenom),
      .string ((resolved? environment bs "DEMURRAGE_FEE_AMOUNT").getD Fee.defaultAmount)⟩],
      .string ((resolved? environment bs "DEMURRAGE_GAS_LIMIT").getD Fee.defaultGas)⟩

/-- An environment that has the resolved value of every name is what loading should
leave behind. -/
theorem loaded_of_lookup {environment loaded : Environment} {bs : List Binding}
    (h : ∀ name, loaded.lookup name = resolved? environment bs name) :
    Loaded environment bs loaded where
  last := by
    rintro before b after rfl hLast
    rw [h, resolved?, fileValue?_last hLast]
  other := by
    intro name hName
    rw [h, resolved?, fileValue?_of_notMem hName, Option.or_none]
  nodeUrl := by rw [Environment.nodeUrl, h]
  contract := by rw [Environment.contract?, h]
  fee := by
    simp only [Fee.ofEnvironment, h]
    rfl

/-- What loading comes to. Nothing moves where no file is, where loading is
switched off, and for bytes that are no UTF-8, the only case with a fault. -/
def LoadOutcome (environment : Environment) (source : Source) (loaded : Environment)
    (fault? : Option Fault) : Prop :=
  match source with
  | .missing | .directory => loaded = environment ∧ fault? = none
  | .file content =>
    if isDisabled environment then loaded = environment ∧ fault? = none
    else
      match Utf8.decode content with
      | .error fault => loaded = environment ∧ fault? = some (.undecodable fault)
      | .ok t => fault? = none ∧ Loaded environment (bindings (textOf t)) loaded

/-- Variables of the environment win over the file, the last values of the file
fill the gaps, and nothing else moves; a second time nothing moves at all. -/
theorem load_frame {environment : Environment} (hEnvironment : environment.ZeroFree)
    {source : Source}
    (hSource : ∀ content t, source = .file content → Utf8.decode content = .ok t →
      ∀ b ∈ bindings (textOf t), b.Settable) :
    ∃ loaded fault?, load environment source = (loaded, fault?) ∧
      load loaded source = (loaded, fault?) ∧
      LoadOutcome environment source loaded fault? := by
  cases hDisabled : isDisabled environment with
  | true =>
      have hLoad := load_disabled hDisabled source
      refine ⟨environment, none, hLoad, hLoad, ?_⟩
      cases source <;> simp [LoadOutcome, hDisabled]
  | false =>
      cases source with
      | missing => exact ⟨environment, none, load_nothing _ rfl, load_nothing _ rfl, rfl, rfl⟩
      | directory => exact ⟨environment, none, load_nothing _ rfl, load_nothing _ rfl, rfl, rfl⟩
      | file content =>
          simp only [LoadOutcome, hDisabled, Bool.false_eq_true, if_false]
          cases hDecode : Utf8.decode content with
          | error fault =>
              have hLoad := load_undecodable hDisabled hDecode
              exact ⟨environment, _, hLoad, hLoad, rfl, rfl⟩
          | ok t =>
              obtain ⟨loaded, hSet⟩ := setVariables_resolve hEnvironment (hSource _ _ rfl hDecode)
              refine ⟨loaded, none, (load_file hDisabled hDecode).trans hSet, ?_, rfl,
                loaded_of_lookup (lookup_of_load hSet)⟩
              cases hAgain : isDisabled loaded with
              | true => exact load_disabled hAgain _
              | false => exact (load_file hAgain hDecode).trans (setVariables_again hSet)

/-- The environment has `A`; the file would change it, and uses it in the last
value of `B`. -/
theorem load_frame_gap :
    let t : Text := "A=1\nB\nB=$\x7bA\x7dy\n"
    ∃ loaded, load [("A", "x")] (.file (t.flatMap Utf8.encodeCodePoint)) = (loaded, none) ∧
      loaded.lookup (Text.ofString "A") = some (Text.ofString "x") ∧
      loaded.lookup (Text.ofString "B") = some (Text.ofString "xy") := by
  intro t
  have hEnvironment : Environment.ZeroFree [("A", "x")] := by
    intro name value h
    rw [Entries.lookup_cons] at h
    split at h
    · cases h
      decide
    · cases h
  have hDecode : Utf8.decode (t.flatMap Utf8.encodeCodePoint) = .ok t :=
    Utf8.decode_eq_ok_iff.mpr ⟨by decide, rfl⟩
  have hBindings : bindings (textOf t) =
      [⟨"A", some "1"⟩, ⟨"B", none⟩] ++ [⟨"B", some "$\x7bA\x7dy"⟩] := by
    decide
  have hSource : ∀ content u, Source.file (t.flatMap Utf8.encodeCodePoint) = .file content →
      Utf8.decode content = .ok u → ∀ b ∈ bindings (textOf u), b.Settable := by
    rintro content u ⟨rfl⟩ hu
    rw [hDecode] at hu
    cases hu
    rw [hBindings]
    decide
  obtain ⟨loaded, fault?, hLoad, -, hFrame⟩ := load_frame hEnvironment hSource
  rw [LoadOutcome, hDecode, if_neg (by decide)] at hFrame
  obtain ⟨rfl, hLoaded⟩ := hFrame
  have hOther := hLoaded.last [] ⟨"A", some "1"⟩ _ hBindings (by decide)
  have hLast := hLoaded.last _ ⟨"B", some "$\x7bA\x7dy"⟩ [] hBindings (by decide)
  exact ⟨loaded, hLoad, hOther.trans (by decide), hLast.trans (by decide)⟩

end Settings

end DemurrageToken
