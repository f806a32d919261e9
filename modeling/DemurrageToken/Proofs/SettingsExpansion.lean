import DemurrageToken.Proofs.Entries
import DemurrageToken.Proofs.Text
import DemurrageToken.Settings.Expansion

/-! What bindings amount to: each name has the value of its last binding,
expanded with what stands before it. Expansion puts in nothing but the text of
the value, variables of the environment and values bound before. -/
namespace DemurrageToken.Settings

/-! ### The last binding of a name -/

/-- The expanded value of the last binding of a name, found from the end; none
if the name is not bound or its last binding has no value. -/
def lastValue? (environment : Environment) (name : Text) : List Binding → Option Text
  | [] => none
  | b :: earlier =>
    if b.name = name then b.value.map (expand environment (resolve environment earlier.reverse))
    else lastValue? environment name earlier

/-- The value that bindings give to a name. -/
def fileValue? (environment : Environment) (bs : List Binding) (name : Text) : Option Text :=
  lastValue? environment name bs.reverse

theorem resolveAfter_append (environment : Environment) (bound : Entries (Option Text))
    (bs cs : List Binding) :
    resolveAfter environment bound (bs ++ cs) =
      resolveAfter environment (resolveAfter environment bound bs) cs := by
  induction bs generalizing bound with
  | nil => rfl
  | cons b bs ih => rw [List.cons_append, resolveAfter, resolveAfter, ih]

/-- One more binding is expanded by what the ones before it amount to. -/
theorem resolve_concat (environment : Environment) (bs : List Binding) (b : Binding) :
    resolve environment (bs ++ [b]) =
      Entries.put b.name (b.value.map (expand environment (resolve environment bs)))
        (resolve environment bs) := by
  rw [resolve, resolveAfter_append]
  rfl

/-- The last binding of a name decides, with the ones before it for its references. -/
theorem fileValue?_concat (environment : Environment) (bs : List Binding) (b : Binding)
    (name : Text) :
    fileValue? environment (bs ++ [b]) name =
      if b.name = name then b.value.map (expand environment (resolve environment bs))
      else fileValue? environment bs name := by
  rw [fileValue?, List.reverse_append, List.reverse_singleton, List.singleton_append, lastValue?,
    List.reverse_reverse]
  rfl

/-- A name that is not bound has no value in the file. -/
theorem fileValue?_of_notMem {environment : Environment} {bs : List Binding} {name : Text}
    (h : name ∉ bs.map Binding.name) : fileValue? environment bs name = none := by
  induction bs using List.reverseRecOn with
  | nil => rfl
  | append_singleton bs b ih =>
      rw [List.map_append, List.mem_append, not_or, List.map_singleton, List.mem_singleton] at h
      rw [fileValue?_concat, if_neg (Ne.symm h.2), ih h.1]

/-- A binding that no other one of its name follows is expanded with those
before it. -/
theorem fileValue?_last {environment : Environment} {before after : List Binding} {b : Binding}
    (h : b.name ∉ after.map Binding.name) :
    fileValue? environment (before ++ b :: after) b.name =
      b.value.map (expand environment (resolve environment before)) := by
  induction after using List.reverseRecOn with
  | nil => rw [fileValue?_concat, if_pos rfl]
  | append_singleton after c ih =>
      rw [List.map_append, List.mem_append, not_or, List.map_singleton, List.mem_singleton] at h
      rw [← List.cons_append, ← List.append_assoc, fileValue?_concat, if_neg (Ne.symm h.2), ih h.1]

/-- Each name has one value in the end. -/
theorem nodup_names_resolve (environment : Environment) (bs : List Binding) :
    ((resolve environment bs).map Prod.fst).Nodup := by
  induction bs using List.reverseRecOn with
  | nil => exact List.nodup_nil
  | append_singleton bs b ih =>
      rw [resolve_concat]
      exact Entries.nodup_names_put ih b.name _

/-- Only names that the file binds have a value in the end. -/
theorem mem_names_resolve {environment : Environment} {bs : List Binding} {name : Text}
    (h : name ∈ (resolve environment bs).map Prod.fst) : name ∈ bs.map Binding.name := by
  induction bs using List.reverseRecOn with
  | nil => cases h
  | append_singleton bs b ih =>
      rw [resolve_concat, Entries.mem_names_put] at h
      rw [List.map_append, List.mem_append, List.map_singleton, List.mem_singleton]
      exact h.symm.imp ih id

/-- The table of resolved bindings holds the last values. -/
theorem lookup_resolve (environment : Environment) (bs : List Binding) (name : Text) :
    ((resolve environment bs).lookup name).join = fileValue? environment bs name := by
  induction bs using List.reverseRecOn with
  | nil => rfl
  | append_singleton bs b ih =>
      rw [resolve_concat, fileValue?_concat, Entries.lookup_put, apply_ite Option.join, ih]
      simp only [Option.join_some, eq_comm]

/-! ### Where expanded text comes from -/

/-- A text begins with a reference, and a text is left after it. A name ends at
the first colon or closing brace, and a default at the first closing brace. -/
inductive Leads : Text → Reference → Text → Prop where
  | plain {name left : Text} (hName : ∀ c ∈ name, c ≠ .scalar '\x7d' ∧ c ≠ .scalar ':') :
      Leads (.scalar '$' :: .scalar '\x7b' :: (name ++ .scalar '\x7d' :: left)) ⟨name, none⟩ left
  | withDefault {name default left : Text}
      (hName : ∀ c ∈ name, c ≠ .scalar '\x7d' ∧ c ≠ .scalar ':')
      (hDefault : ∀ c ∈ default, c ≠ .scalar '\x7d') :
      Leads (.scalar '$' :: .scalar '\x7b' ::
        (name ++ .scalar ':' :: .scalar '-' :: (default ++ .scalar '\x7d' :: left)))
        ⟨name, some default⟩ left

/-- Past its opening brace, a reference is read just where a text begins with it. -/
theorem reference?_eq_some_iff {t left : Text} {r : Reference} :
    reference? t = some (r, left) ↔ Leads (.scalar '$' :: .scalar '\x7b' :: t) r left := by
  constructor
  · intro h
    unfold reference? at h
    split at h
    · next hSpan =>
        cases h
        obtain ⟨rfl, hName, -⟩ := Text.span_eq_iff.mp hSpan
        exact .plain fun c hc => by simpa using hName c hc
    · next rest hSpan =>
        split at h
        · next default c left' hDefault =>
            cases h
            obtain ⟨rfl, hName, -⟩ := Text.span_eq_iff.mp hSpan
            obtain ⟨rfl, hText, hClosing⟩ := Text.span_eq_iff.mp hDefault
            obtain rfl : c = .scalar '\x7d' := by simpa using hClosing c rfl
            exact .withDefault (fun c hc => by simpa using hName c hc)
              fun c hc => by simpa using hText c hc
        · cases h
    · cases h
  · intro h
    cases h with
    | @plain name _ hName =>
        have hSpan : (name ++ .scalar '\x7d' :: left).span
            (fun c => c ≠ .scalar '\x7d' && c ≠ .scalar ':') = (name, .scalar '\x7d' :: left) :=
          Text.span_eq_iff.mpr ⟨rfl, fun c hc => by simpa using hName c hc, by simp⟩
        simp only [reference?, hSpan]
    | @withDefault name default _ hName hDefault =>
        have hSpan :
            (name ++ .scalar ':' :: .scalar '-' :: (default ++ .scalar '\x7d' :: left)).span
              (fun c => c ≠ .scalar '\x7d' && c ≠ .scalar ':') =
              (name, .scalar ':' :: .scalar '-' :: (default ++ .scalar '\x7d' :: left)) :=
          Text.span_eq_iff.mpr ⟨rfl, fun c hc => by simpa using hName c hc, by simp⟩
        have hSpan' : (default ++ .scalar '\x7d' :: left).span (· ≠ .scalar '\x7d') =
            (default, .scalar '\x7d' :: left) :=
          Text.span_eq_iff.mpr ⟨rfl, fun c hc => by simpa using hDefault c hc, by simp⟩
        simp only [reference?, hSpan, hSpan']

/-- A default and what follows a reference are parts of the text. -/
theorem subset_of_reference {t left : Text} {r : Reference}
    (h : reference? t = some (r, left)) : r.default.getD [] ⊆ t ∧ left ⊆ t := by
  cases reference?_eq_some_iff.mp h with
  | plain => exact ⟨List.nil_subset _, fun c hc => by simp [hc]⟩
  | withDefault => exact ⟨fun c hc => by simp_all, fun c hc => by simp [hc]⟩

/-- The text that an atom stands for without looking anything up. -/
def Atom.literal : Atom → Text
  | .plain c => [c]
  | .reference r => r.default.getD []

/-- The text around references comes from the value. -/
theorem literal_subset {bound : Nat} {t : Text} {atom : Atom}
    (h : atom ∈ atomsWithin bound t) : atom.literal ⊆ t := by
  fun_induction atomsWithin bound t with
  | case1 | case2 => cases h
  | case3 bound c rest found? r left hFound ih =>
      have hSubset : r.default.getD [] ⊆ rest ∧ left ⊆ rest := by
        simp only [found?] at hFound
        split at hFound
        · next inner =>
            have hInner := subset_of_reference hFound
            exact ⟨fun d hd => List.mem_cons_of_mem _ (hInner.1 hd),
              fun d hd => List.mem_cons_of_mem _ (hInner.2 hd)⟩
        · cases hFound
      rcases List.mem_cons.mp h with rfl | h
      · exact fun d hd => List.mem_cons_of_mem _ (hSubset.1 hd)
      · exact fun d hd => List.mem_cons_of_mem _ (hSubset.2 (ih h hd))
  | case4 bound c rest found? hFound ih =>
      rcases List.mem_cons.mp h with rfl | h
      · exact List.cons_subset.mpr ⟨List.mem_cons_self .., List.nil_subset _⟩
      · exact fun d hd => List.mem_cons_of_mem _ (ih h hd)

/-- Every character of an expanded value stands in the value, in the environment or
in an earlier binding. -/
theorem mem_expand {environment : Environment} {bound : Entries (Option Text)} {t : Text}
    {c : CodePoint} (h : c ∈ expand environment bound t) :
    c ∈ t ∨ (∃ name value, environment.lookup name = some value ∧ c ∈ value) ∨
      ∃ name value, bound.lookup name = some (some value) ∧ c ∈ value := by
  obtain ⟨atom, hAtom, hc⟩ := List.mem_flatMap.mp h
  have hLiteral := literal_subset hAtom
  cases atom with
  | plain d =>
      rw [List.mem_singleton.mp hc]
      exact .inl (hLiteral (List.mem_singleton_self d))
  | reference r =>
      simp only [Reference.resolve] at hc
      split at hc
      · next value hValue => exact .inr (.inl ⟨_, value, hValue, hc⟩)
      · split at hc
        · next value? hValue =>
            cases value? with
            | none => cases hc
            | some value => exact .inr (.inr ⟨_, value, hValue, hc⟩)
        · exact .inl (hLiteral hc)

end DemurrageToken.Settings
