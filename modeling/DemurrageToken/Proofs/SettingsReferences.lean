import DemurrageToken.Proofs.SettingsFrame

/-! References in a settings file and what they are replaced by: once the file is
loaded, nearly all of them show what the environment has for their names. -/
namespace DemurrageToken.Settings

/-! ### One scan over a text -/

theorem Leads.length_lt {t left : Text} {r : Reference} (h : Leads t r left) :
    left.length < t.length := by
  cases h <;> simp <;> omega

/-- A reference at the front of a text is its first atom. -/
theorem atomsWithin_of_leads {c : CodePoint} {rest left : Text} {r : Reference}
    (h : Leads (c :: rest) r left) (bound : Nat) :
    atomsWithin (bound + 1) (c :: rest) = .reference r :: atomsWithin bound left := by
  have hFound : ∃ inner, c = .scalar '$' ∧ rest = .scalar '{' :: inner := by
    cases h <;> exact ⟨_, rfl, rfl⟩
  obtain ⟨inner, rfl, rfl⟩ := hFound
  simp only [atomsWithin, reference?_eq_some_iff.mpr h]

/-- Where no reference begins, a code point stands for itself. -/
theorem atomsWithin_of_not_leads {c : CodePoint} {rest : Text}
    (h : ∀ r left, ¬Leads (c :: rest) r left) (bound : Nat) :
    atomsWithin (bound + 1) (c :: rest) = .plain c :: atomsWithin bound rest := by
  rw [atomsWithin.eq_def]
  dsimp only
  split
  · next r left hFound =>
      split at hFound
      · exact absurd (reference?_eq_some_iff.mp hFound) (h r left)
      · cases hFound
  · rfl

/-- Atoms do not depend on the bound, if it is not below the length of the text. -/
theorem atomsWithin_eq_atoms {bound : Nat} {t : Text} (h : t.length ≤ bound) :
    atomsWithin bound t = atoms t := by
  have hBounds : ∀ n m (t : Text), t.length ≤ n → t.length ≤ m →
      atomsWithin n t = atomsWithin m t := by
    intro n
    induction n with
    | zero =>
        intro m t hn _
        obtain rfl := List.eq_nil_of_length_eq_zero (Nat.le_zero.mp hn)
        cases m <;> rfl
    | succ n ih =>
        intro m t hn hm
        cases t with
        | nil => cases m <;> rfl
        | cons c rest =>
            obtain ⟨m, rfl⟩ := Nat.exists_eq_add_one_of_ne_zero (Nat.ne_of_gt (Nat.lt_of_lt_of_le
              (Nat.succ_pos rest.length) hm))
            simp only [List.length_cons, Nat.add_le_add_iff_right] at hn hm
            by_cases hLeads : ∃ r left, Leads (c :: rest) r left
            · obtain ⟨r, left, hLeads⟩ := hLeads
              have hShort := hLeads.length_lt
              rw [List.length_cons] at hShort
              rw [atomsWithin_of_leads hLeads, atomsWithin_of_leads hLeads,
                ih m left (by omega) (by omega)]
            · have hPlain : ∀ r left, ¬Leads (c :: rest) r left :=
                fun r left h => hLeads ⟨r, left, h⟩
              rw [atomsWithin_of_not_leads hPlain, atomsWithin_of_not_leads hPlain,
                ih m rest hn hm]
  exact hBounds bound t.length t h (Nat.le_refl _)

section

variable {environment : Environment} {bound : Entries (Option Text)}

/-- A reference at the front is replaced, and the rest is expanded on its own. -/
theorem expand_of_leads {t left : Text} {r : Reference} (h : Leads t r left) :
    expand environment bound t = r.resolve environment bound ++ expand environment bound left := by
  cases t with
  | nil => cases h
  | cons c rest =>
      have hShort := h.length_lt
      rw [List.length_cons] at hShort
      rw [expand, atoms, List.length_cons, atomsWithin_of_leads h,
        atomsWithin_eq_atoms (Nat.le_of_lt_succ hShort), List.flatMap_cons]
      rfl

theorem expand_of_not_leads {c : CodePoint} {rest : Text}
    (h : ∀ r left, ¬Leads (c :: rest) r left) :
    expand environment bound (c :: rest) = c :: expand environment bound rest := by
  rw [expand, atoms, List.length_cons, atomsWithin_of_not_leads h,
    atomsWithin_eq_atoms (Nat.le_refl _), List.flatMap_cons]
  rfl

/-- What a scan from left to right makes of a text if its references are given
meanings. The scan goes on behind a reference, so what is put in is not scanned. -/
inductive Expands (Means : Reference → Text → Prop) : Text → Text → Prop where
  | nil : Expands Means [] []
  | reference {t left u v : Text} {r : Reference} (hLeads : Leads t r left) (hMeans : Means r u)
      (rest : Expands Means left v) : Expands Means t (u ++ v)
  | plain {c : CodePoint} {t v : Text} (hPlain : ∀ r left, ¬Leads (c :: t) r left)
      (rest : Expands Means t v) : Expands Means (c :: t) (c :: v)

/-- If references mean what they are resolved to, the scan gives the expansion
and nothing else. -/
theorem expands_iff {Means : Reference → Text → Prop}
    (hMeans : ∀ r u, Means r u ↔ u = r.resolve environment bound) {t v : Text} :
    Expands Means t v ↔ v = expand environment bound t := by
  constructor
  · intro h
    induction h with
    | nil => rfl
    | reference hLeads hReference _ ih =>
        rw [expand_of_leads hLeads, ← ih, (hMeans _ _).mp hReference]
    | plain hPlain _ ih => rw [expand_of_not_leads hPlain, ← ih]
  · rintro rfl
    -- A reference takes several code points at once, so the induction is on the length.
    induction hLength : t.length using Nat.strong_induction_on generalizing t with
    | _ n ih =>
        subst hLength
        by_cases hLeads : ∃ r left, Leads t r left
        · obtain ⟨r, left, hLeads⟩ := hLeads
          rw [expand_of_leads hLeads]
          exact .reference hLeads ((hMeans _ _).mpr rfl) (ih _ hLeads.length_lt rfl)
        · have hPlain : ∀ r left, ¬Leads t r left := fun r left h => hLeads ⟨r, left, h⟩
          cases t with
          | nil => exact .nil
          | cons c rest =>
              rw [expand_of_not_leads hPlain]
              exact .plain hPlain (ih _ (Nat.lt_succ_self _) rfl)

end

/-! ### References and the environment after loading -/

/-- What a reference stands for, told from the environment before and after
loading and from the bindings before the one that the reference is in. -/
inductive StandsFor (environment loaded : Environment) (before : List Binding) (r : Reference) :
    Text → Prop where
  | final {u : Text} (hKnown : (environment.lookup r.name).isSome = true ∨
        ∃ b ∈ before, b.name = r.name ∧ b.value.isSome = true)
      (hFinal : loaded.lookup r.name = some u) : StandsFor environment loaded before r u
  | empty (hAbsent : environment.lookup r.name = none) (hBound : ⟨r.name, none⟩ ∈ before) :
      StandsFor environment loaded before r []
  | default (hAbsent : environment.lookup r.name = none)
      (hUnbound : r.name ∉ before.map Binding.name) :
      StandsFor environment loaded before r (r.default.getD [])

theorem fileValue?_append_of_notMem {environment : Environment} {before after : List Binding}
    {name : Text} (h : name ∉ after.map Binding.name) :
    fileValue? environment (before ++ after) name = fileValue? environment before name := by
  induction after using List.reverseRecOn with
  | nil => rw [List.append_nil]
  | append_singleton after b ih =>
      rw [List.map_append, List.mem_append, not_or, List.map_singleton, List.mem_singleton] at h
      rw [← List.append_assoc, fileValue?_concat, if_neg (Ne.symm h.2), ih h.1]

/-- A name that the file binds has the value of its last binding. -/
theorem lookup_resolve_of_mem (environment : Environment) {bs : List Binding} {name : Text}
    (h : name ∈ bs.map Binding.name) :
    (resolve environment bs).lookup name = some (fileValue? environment bs name) := by
  induction bs using List.reverseRecOn with
  | nil => cases h
  | append_singleton bs b ih =>
      rw [List.map_append, List.mem_append, List.map_singleton, List.mem_singleton] at h
      rw [resolve_concat, Entries.lookup_put, fileValue?_concat]
      split
      · next hName => rw [if_pos hName.symm]
      · next hName => rw [if_neg (Ne.symm hName), ih (h.resolve_right hName)]

theorem lookup_resolve_of_notMem (environment : Environment) {bs : List Binding} {name : Text}
    (h : name ∉ bs.map Binding.name) : (resolve environment bs).lookup name = none := by
  rw [← Entries.notMem_names_iff]
  exact fun hMem => h (mem_names_resolve hMem)

section

variable {environment loaded : Environment} {before after : List Binding} {b : Binding}

/-- Among bindings with distinct names, each gives its name the value. -/
theorem fileValue?_eq_none_iff (hDistinct : (before.map Binding.name).Nodup) (hb : b ∈ before) :
    fileValue? environment before b.name = none ↔ b.value = none := by
  obtain ⟨earlier, later, rfl⟩ := List.append_of_mem hb
  rw [List.map_append, List.map_cons] at hDistinct
  have hLast := (List.nodup_cons.mp (List.nodup_append.mp hDistinct).2.1).1
  rw [fileValue?_last hLast, Option.map_eq_none_iff]

/-- The environment comes first for a reference. -/
theorem reference_of_given {r : Reference} {value : Text}
    (h : environment.lookup r.name = some value) (bound : Entries (Option Text)) :
    r.resolve environment bound = value := by
  rw [Reference.resolve, h]

/-- An earlier binding comes next, and without a value it is empty. -/
theorem reference_of_bound {r : Reference} (hAbsent : environment.lookup r.name = none)
    (hBound : r.name ∈ before.map Binding.name) :
    r.resolve environment (resolve environment before) =
      (fileValue? environment before r.name).getD [] := by
  rw [Reference.resolve, hAbsent, lookup_resolve_of_mem environment hBound]

/-- The default comes last, and without one the reference is empty. -/
theorem reference_of_unbound {r : Reference} (hAbsent : environment.lookup r.name = none)
    (hUnbound : r.name ∉ before.map Binding.name) :
    r.resolve environment (resolve environment before) = r.default.getD [] := by
  rw [Reference.resolve, hAbsent, lookup_resolve_of_notMem environment hUnbound]

/-- What a file binds once and the environment lacks, loading sets to the value
that it had for the bindings behind it. -/
theorem lookup_loaded_of_bound
    (hLoaded : ∀ name, loaded.lookup name = resolved? environment (before ++ after) name)
    (hDistinct : ((before ++ after).map Binding.name).Nodup) {name : Text}
    (hAbsent : environment.lookup name = none) (hBound : name ∈ before.map Binding.name) :
    loaded.lookup name = fileValue? environment before name := by
  rw [List.map_append, List.nodup_append] at hDistinct
  rw [hLoaded, resolved?, hAbsent, Option.none_or,
    fileValue?_append_of_notMem fun hAfter => hDistinct.2.2 name hBound name hAfter rfl]

/-- What a reference is resolved to is what it stands for. -/
theorem standsFor_resolve
    (hLoaded : ∀ name, loaded.lookup name = resolved? environment (before ++ after) name)
    (hDistinct : ((before ++ after).map Binding.name).Nodup) (r : Reference) :
    StandsFor environment loaded before r (r.resolve environment (resolve environment before)) := by
  have hBefore : (before.map Binding.name).Nodup := by
    rw [List.map_append] at hDistinct
    exact (List.nodup_append.mp hDistinct).1
  cases hVariable : environment.lookup r.name with
  | some value =>
      rw [reference_of_given hVariable]
      exact .final (.inl (by rw [hVariable]; rfl)) (by rw [hLoaded, resolved?, hVariable]; rfl)
  | none =>
      by_cases hBound : r.name ∈ before.map Binding.name
      · have hFinal := lookup_loaded_of_bound hLoaded hDistinct hVariable hBound
        rw [reference_of_bound hVariable hBound]
        obtain ⟨⟨name, value?⟩, hc, rfl⟩ := List.mem_map.mp hBound
        have hNone := @fileValue?_eq_none_iff environment before ⟨r.name, value?⟩ hBefore hc
        cases hValue : fileValue? environment before r.name with
        | none =>
            obtain rfl := hNone.mp hValue
            exact .empty hVariable hc
        | some value =>
            have hSome : value? ≠ none := fun h => by simp [hNone.mpr h] at hValue
            rw [hValue] at hFinal
            exact .final (.inr ⟨_, hc, rfl, Option.isSome_iff_ne_none.mpr hSome⟩) hFinal
      · rw [reference_of_unbound hVariable hBound]
        exact .default hVariable hBound

/-- A reference stands for nothing else. -/
theorem StandsFor.eq_resolve
    (hLoaded : ∀ name, loaded.lookup name = resolved? environment (before ++ after) name)
    (hDistinct : ((before ++ after).map Binding.name).Nodup) {r : Reference} {u : Text}
    (h : StandsFor environment loaded before r u) :
    u = r.resolve environment (resolve environment before) := by
  have hBefore : (before.map Binding.name).Nodup := by
    rw [List.map_append] at hDistinct
    exact (List.nodup_append.mp hDistinct).1
  cases h with
  | final hKnown hFinal =>
      cases hVariable : environment.lookup r.name with
      | some value =>
          rw [hLoaded, resolved?, hVariable] at hFinal
          rw [reference_of_given hVariable]
          exact (Option.some.inj hFinal).symm
      | none =>
          rw [hVariable] at hKnown
          obtain ⟨c, hc, hName, -⟩ := hKnown.resolve_left (by decide)
          have hBound : r.name ∈ before.map Binding.name := hName ▸ List.mem_map_of_mem hc
          rw [lookup_loaded_of_bound hLoaded hDistinct hVariable hBound] at hFinal
          rw [reference_of_bound hVariable hBound, hFinal, Option.getD_some]
  | empty hAbsent hMem =>
      have hNone : fileValue? environment before r.name = none :=
        (fileValue?_eq_none_iff hBefore hMem).mpr rfl
      rw [reference_of_bound hAbsent (List.mem_map_of_mem hMem), hNone, Option.getD_none]
  | default hAbsent hUnbound => rw [reference_of_unbound hAbsent hUnbound]

/-- In a file that binds no name twice, a value is expanded by one scan, and what
is put in for a name that is known by then is its variable once all is loaded. -/
theorem load_expands {content : Bytes} {t value : Text}
    (hEnabled : isDisabled environment = false) (hDecode : Utf8.decode content = .ok t)
    (hLoad : load environment (.file content) = (loaded, none))
    (hFile : bindings (textOf t) = before ++ b :: after)
    (hDistinct : ((bindings (textOf t)).map Binding.name).Nodup)
    (hNew : environment.lookup b.name = none) (hValue : b.value = some value) :
    ∃ expanded, loaded.lookup b.name = some expanded ∧
      ∀ u, Expands (StandsFor environment loaded before) value u ↔ u = expanded := by
  rw [load_file hEnabled hDecode, hFile] at hLoad
  rw [hFile] at hDistinct
  have hLoaded := lookup_of_load hLoad
  have hMeaning : ∀ r u, StandsFor environment loaded before r u ↔
      u = r.resolve environment (resolve environment before) := fun r u =>
    ⟨fun h => h.eq_resolve hLoaded hDistinct, fun h => h ▸ standsFor_resolve hLoaded hDistinct r⟩
  refine ⟨expand environment (resolve environment before) value, ?_, fun u =>
    expands_iff hMeaning⟩
  have hLast : b.name ∉ after.map Binding.name := by
    rw [List.map_append, List.map_cons] at hDistinct
    exact (List.nodup_cons.mp (List.nodup_append.mp hDistinct).2.1).1
  rw [hLoaded, resolved?, hNew, Option.none_or, fileValue?_last hLast, hValue, Option.map_some]

end

/-- What `A` stands for ends in a dollar sign, and a brace follows it: that is no
new reference. `B` has no value, `C` is not bound before itself, and the last
braces are not closed. -/
theorem load_expands_adjacent :
    let t : Text := "A=$\x7bH\x7d$\nB\nC='$\x7bA\x7d\x7b$\x7bB\x7d$\x7bC:-d\x7d$\x7bC:d'\nD=2\n"
    let loaded : Environment := [("H", "h"), ("A", "h$"), ("C", "h$\x7bd$\x7bC:d"), ("D", "2")]
    load [("H", "h")] (.file (t.flatMap Utf8.encodeCodePoint)) = (loaded, none) ∧
      Expands (StandsFor [("H", "h")] loaded [⟨"A", some "$\x7bH\x7d$"⟩, ⟨"B", none⟩])
        "$\x7bA\x7d\x7b$\x7bB\x7d$\x7bC:-d\x7d$\x7bC:d" "h$\x7bd$\x7bC:d" := by
  intro t loaded
  have hDecode : Utf8.decode (t.flatMap Utf8.encodeCodePoint) = .ok t :=
    Utf8.decode_eq_ok_iff.mpr ⟨by decide, rfl⟩
  have hBindings : bindings (textOf t) = [⟨"A", some "$\x7bH\x7d$"⟩, ⟨"B", none⟩] ++
      ⟨"C", some "$\x7bA\x7d\x7b$\x7bB\x7d$\x7bC:-d\x7d$\x7bC:d"⟩ :: [⟨"D", some "2"⟩] := by
    decide +kernel
  have hLoad : load [("H", "h")] (.file (t.flatMap Utf8.encodeCodePoint)) = (loaded, none) := by
    rw [load_file (by decide) hDecode, hBindings]
    decide +kernel
  obtain ⟨expanded, hValue, hExpands⟩ :=
    load_expands (by decide) hDecode hLoad hBindings (by rw [hBindings]; decide) (by decide) rfl
  exact ⟨hLoad, (hExpands _).mpr (Option.some.inj (hValue.symm.trans (by decide))).symm⟩

end DemurrageToken.Settings
