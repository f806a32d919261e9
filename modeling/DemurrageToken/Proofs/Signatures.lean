import DemurrageToken.Proofs.Entries
import DemurrageToken.Proofs.Except
import DemurrageToken.Signature

/-! Arguments that fit a signature, and the values that its parameters get. -/
namespace DemurrageToken.Signature

variable {signature : Signature} {arguments : Arguments} {values : List Json}

/-- Arguments fit if there are not too many, if each name is that of a parameter
without a value, and if each of these parameters gets its value. -/
theorem bind_eq_some_iff :
    signature.bind arguments = some values ↔
      (arguments.positional.length ≤ signature.length ∧
        ∀ name ∈ arguments.named.map Prod.fst,
          name ∈ (signature.drop arguments.positional.length).map (·.name)) ∧
      ∃ others, List.Forall₂ (fun p v => namedValue? arguments.named p = some v)
          (signature.drop arguments.positional.length) others ∧
        arguments.positional ++ others = values := by
  have hNames : (arguments.named.all fun entry =>
      (signature.drop arguments.positional.length).any (·.name = entry.1)) = true ↔
        ∀ name ∈ arguments.named.map Prod.fst,
          name ∈ (signature.drop arguments.positional.length).map (·.name) := by
    simp only [List.all_eq_true, List.any_eq_true, decide_eq_true_eq, List.mem_map,
      forall_exists_index, and_imp, forall_apply_eq_imp_iff₂]
  simp only [bind, hNames]
  split
  · next hFits =>
      rw [Option.map_eq_some_iff, and_iff_right hFits]
      simp only [List.mapM_eq_some_iff]
  · next hMisfit => simp only [reduceCtorEq, hMisfit, false_and]

/-- A parameter gets a value if it is optional or named. -/
theorem isSome_namedValue? {named : Entries Json} {p : Parameter}
    (h : p.optional = true ∨ p.name ∈ named.map Prod.fst) :
    (namedValue? named p).isSome = true := by
  rw [namedValue?]
  cases hLookup : named.lookup p.name with
  | some v => rfl
  | none =>
      rw [Entries.mem_names_iff, hLookup] at h
      rw [h.resolve_right Bool.false_ne_true]
      rfl

/-- Where each parameter gets a value by name, the values are a list beside the
parameters. -/
theorem exists_values {named : Entries Json}
    (h : ∀ p ∈ signature, (namedValue? named p).isSome = true) :
    ∃ others, List.Forall₂ (fun p v => namedValue? named p = some v) signature others := by
  induction signature with
  | nil => exact ⟨[], .nil⟩
  | cons p signature ih =>
      obtain ⟨v, hv⟩ := Option.isSome_iff_exists.mp (h p (List.mem_cons_self ..))
      obtain ⟨others, hOthers⟩ := ih fun q hq => h q (List.mem_cons_of_mem _ hq)
      exact ⟨v :: others, .cons hv hOthers⟩

/-- Every parameter gets a value. -/
theorem length_of_bind (h : signature.bind arguments = some values) :
    values.length = signature.length := by
  obtain ⟨⟨hLength, -⟩, others, hOthers, rfl⟩ := bind_eq_some_iff.mp h
  have hRest := hOthers.length_eq
  rw [List.length_drop] at hRest
  rw [List.length_append]
  omega

end DemurrageToken.Signature
