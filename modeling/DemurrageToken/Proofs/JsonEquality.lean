import DemurrageToken.Json.Equality
import DemurrageToken.Proofs.Entries
import DemurrageToken.Proofs.JsonParts
import Mathlib.Data.List.Forall2
import Mathlib.Data.List.Perm.Subperm

/-! When two values count as the same. Lists are compared place by place and
objects name by name, so the order of members does not matter, and every value
with distinct names counts as the same as itself. -/
namespace DemurrageToken

namespace Entries

variable {α : Type}

/-- Dropping entries by their values drops them for whoever looks them up. -/
theorem lookup_filter {table : List (Text × α)} (hNodup : (table.map Prod.fst).Nodup)
    (p : α → Bool) (name : Text) :
    (table.filter fun entry => p entry.2).lookup name = (table.lookup name).filter p := by
  induction table with
  | nil => rfl
  | cons entry table ih =>
      obtain ⟨present, value⟩ := entry
      rw [List.map_cons, List.nodup_cons, notMem_names_iff] at hNodup
      have hRest := ih hNodup.2
      by_cases hName : name = present
      · subst hName
        rw [hNodup.1] at hRest
        cases hValue : p value <;> simp [Option.filter, hValue, hRest]
      · cases hValue : p value <;> simp [lookup_cons, hValue, hRest, hName]

/-- Values under the same names are related one by one if they are so under
every name. -/
theorem forall₂_iff_lookup {β : Type} {R : α → β → Prop} {names : List Text}
    (hNodup : names.Nodup) {xs : List α} {ys : List β} (hxs : xs.length = names.length)
    (hys : ys.length = names.length) :
    List.Forall₂ R xs ys ↔
      ∀ name, Option.Rel R ((names.zip xs).lookup name) ((names.zip ys).lookup name) := by
  induction names generalizing xs ys with
  | nil =>
      obtain rfl := List.eq_nil_of_length_eq_zero hxs
      obtain rfl := List.eq_nil_of_length_eq_zero hys
      simp
  | cons name names ih =>
      obtain ⟨x, xs, rfl⟩ := List.exists_cons_of_length_eq_add_one hxs
      obtain ⟨y, ys, rfl⟩ := List.exists_cons_of_length_eq_add_one hys
      rw [List.nodup_cons] at hNodup
      have hAbsent : ∀ {γ : Type} (zs : List γ), (names.zip zs).lookup name = none := by
        intro γ zs
        rw [← notMem_names_iff]
        intro hMem
        obtain ⟨entry, hEntry, rfl⟩ := List.mem_map.mp hMem
        exact hNodup.1 (List.of_mem_zip hEntry).1
      rw [List.forall₂_cons, ih hNodup.2 (Nat.succ.inj hxs) (Nat.succ.inj hys)]
      simp only [List.zip_cons_cons, lookup_cons]
      constructor
      · rintro ⟨hFirst, hRest⟩ other
        split
        · exact .some hFirst
        · exact hRest other
      · intro hNames
        refine ⟨by simpa using hNames name, fun other => ?_⟩
        by_cases hOther : other = name
        · rw [hOther, hAbsent, hAbsent]
          exact .none
        · simpa [hOther] using hNames other

end Entries

namespace Json

/-- Two optional values count as the same if both are there and do, or if
neither is there. -/
abbrev SameOptional : Option Json → Option Json → Prop := Option.Rel fun x y => x.same y = true

theorem SameOptional.isSome_eq {x? y? : Option Json} (h : SameOptional x? y?) :
    x?.isSome = y?.isSome := by
  cases h <;> rfl

theorem sameElements_iff {xs ys : List Json} :
    sameElements xs ys = true ↔ List.Forall₂ (fun x y => x.same y = true) xs ys := by
  induction xs generalizing ys with
  | nil => cases ys <;> simp [sameElements]
  | cons x xs ih => cases ys <;> simp [sameElements, ih]

/-- Members are looked up by name, so their order does not matter. -/
theorem sameMembers_iff {ms ns : List (Text × Json)} :
    sameMembers ms ns = true ↔
      ∀ m ∈ ms, ∃ y, ns.lookup m.1 = some y ∧ m.2.same y = true := by
  induction ms with
  | nil => simp [sameMembers]
  | cons m ms ih =>
      obtain ⟨name, x⟩ := m
      rw [sameMembers, Bool.and_eq_true, ih, List.forall_mem_cons]
      cases ns.lookup name <;> simp

/-- Objects count as the same if every name has the same value in both. -/
theorem same_object_iff {ms ns : List (Text × Json)} (hms : (ms.map Prod.fst).Nodup)
    (hns : (ns.map Prod.fst).Nodup) :
    (object ms).same (object ns) = true ↔
      ∀ name, SameOptional (ms.lookup name) (ns.lookup name) := by
  have hSame : (object ms).same (object ns) = true ↔
      ms.length = ns.length ∧ sameMembers ms ns = true := by simp [same]
  rw [hSame, sameMembers_iff]
  constructor
  · rintro ⟨hLength, hMembers⟩ name
    cases hName : ms.lookup name with
    | some x =>
        obtain ⟨y, hy, hxy⟩ := hMembers (name, x) (Entries.mem_of_lookup hName)
        rw [hy]
        exact .some hxy
    | none =>
        -- The names of one object are among those of the other, and there are as many of them.
        have hSubset : ms.map Prod.fst ⊆ ns.map Prod.fst := by
          intro other hOther
          obtain ⟨m, hm, rfl⟩ := List.mem_map.mp hOther
          obtain ⟨y, hy, -⟩ := hMembers m hm
          rw [Entries.mem_names_iff, hy]
          rfl
        have hPerm := (hms.subperm hSubset).perm_of_length_le (by simp [hLength])
        rw [← Entries.notMem_names_iff, hPerm.mem_iff, Entries.notMem_names_iff] at hName
        rw [hName]
        exact .none
  · intro hNames
    have hMem : ∀ name, name ∈ ms.map Prod.fst ↔ name ∈ ns.map Prod.fst := by
      intro name
      rw [Entries.mem_names_iff, Entries.mem_names_iff, (hNames name).isSome_eq]
    have hPerm := (List.perm_ext_iff_of_nodup hms hns).mpr hMem
    refine ⟨by simpa using hPerm.length_eq, ?_⟩
    rintro ⟨name, x⟩ hm
    have hName := hNames name
    rw [Entries.lookup_of_mem hms hm] at hName
    cases hy : ns.lookup name with
    | none =>
        rw [hy] at hName
        cases hName
    | some y =>
        rw [hy] at hName
        cases hName with
        | some hxy => exact ⟨y, rfl, hxy⟩

/-- No object at any depth has two members of one name. -/
def DistinctNames (v : Json) : Prop :=
  Everywhere (fun w => ∀ ms, w = object ms → (ms.map Prod.fst).Nodup) v

/-- NaN too counts as the same as itself. -/
theorem same_self {v : Json} (hv : v.DistinctNames) : v.same v = true := by
  induction hv with
  | @mk v hNames _ ih =>
      cases v with
      | null => rfl
      | bool b => simp [same, sameScalar, quantity?]
      | int n => simp [same, sameScalar, quantity?]
      | float x => simp [same, sameScalar, quantity?]
      | string t => simp [same, sameScalar]
      | array xs =>
          have hElements : sameElements xs xs = true :=
            sameElements_iff.mpr (List.forall₂_same.mpr ih)
          simpa [same] using hElements
      | object ms =>
          have hNodup := hNames ms rfl
          rw [same_object_iff hNodup hNodup]
          intro name
          cases hName : ms.lookup name with
          | none => exact .none
          | some x =>
              exact .some (ih x (List.mem_map_of_mem (Entries.mem_of_lookup hName)))

theorem isNull_eq_false_iff {v : Json} : v.isNull = false ↔ v ≠ null := by
  cases v <;> simp [isNull]

theorem null_same_iff {v : Json} : null.same v = true ↔ v = null := by
  cases v <;> simp [same, sameScalar, quantity?]

theorem same_null_iff {v : Json} : v.same null = true ↔ v = null := by
  cases v <;> simp [same, sameScalar, quantity?]

end Json

end DemurrageToken
