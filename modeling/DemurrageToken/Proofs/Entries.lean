import DemurrageToken.Entries
import Mathlib.Data.List.Induction
import Mathlib.Data.List.Nodup

/-! Laws of tables in the order of first entry. All of them are stated on
`lookup` and on the list of names. -/
namespace DemurrageToken.Entries

variable {α : Type}

theorem lookup_cons (name present : Text) (value : α) (table : List (Text × α)) :
    List.lookup name ((present, value) :: table) =
      if name = present then some value else table.lookup name := by
  by_cases h : name = present
  · simp [h]
  · simp [h, List.lookup_cons, beq_eq_false_iff_ne.mpr h]

/-- A name that is put has the new value, and no other name changes. -/
theorem lookup_put (name other : Text) (value : α) (table : Entries α) :
    (put name value table).lookup other =
      if other = name then some value else table.lookup other := by
  induction table with
  | nil => rw [put, lookup_cons]
  | cons entry table ih =>
      obtain ⟨present, old⟩ := entry
      rw [put]
      split
      · next hPresent =>
          subst hPresent
          rw [lookup_cons, lookup_cons]
          split <;> rfl
      · next hPresent =>
          rw [lookup_cons, lookup_cons, ih]
          by_cases h : other = present
          · subst h
            rw [if_pos rfl, if_pos rfl, if_neg hPresent]
          · rw [if_neg h, if_neg h]

/-- A new name goes to the end, a present one keeps its place. -/
theorem names_put (name : Text) (value : α) (table : Entries α) :
    (put name value table).map Prod.fst =
      if name ∈ table.map Prod.fst then table.map Prod.fst
      else table.map Prod.fst ++ [name] := by
  induction table with
  | nil => simp [put]
  | cons entry table ih =>
      obtain ⟨present, old⟩ := entry
      by_cases hPresent : present = name
      · simp [put, hPresent]
      · simp only [put, hPresent, if_false, List.map_cons, ih, List.mem_cons, Ne.symm hPresent,
          false_or]
        split <;> simp

/-- Putting a name adds that name and drops none. -/
theorem mem_names_put {name other : Text} {value : α} {table : Entries α} :
    other ∈ (put name value table).map Prod.fst ↔ other = name ∨ other ∈ table.map Prod.fst := by
  rw [names_put]
  split
  · next h =>
      refine (or_iff_right_of_imp ?_).symm
      rintro rfl
      exact h
  · rw [List.mem_append, List.mem_singleton, or_comm]

/-- Putting a name adds no second entry for it. -/
theorem nodup_names_put {table : Entries α} (h : (table.map Prod.fst).Nodup) (name : Text)
    (value : α) : ((put name value table).map Prod.fst).Nodup := by
  rw [names_put]
  split
  · exact h
  · next hNew =>
      rw [List.nodup_append_comm, List.singleton_append]
      exact List.nodup_cons.mpr ⟨hNew, h⟩

/-- A table has a name if it has a value for it. -/
theorem mem_names_iff (name : Text) (table : List (Text × α)) :
    name ∈ table.map Prod.fst ↔ (table.lookup name).isSome = true := by
  induction table with
  | nil => simp
  | cons entry table ih =>
      obtain ⟨present, value⟩ := entry
      rw [lookup_cons, List.map_cons, List.mem_cons, ih]
      split <;> simp [*]

theorem notMem_names_iff {name : Text} {table : List (Text × α)} :
    name ∉ table.map Prod.fst ↔ table.lookup name = none := by
  rw [mem_names_iff, Option.not_isSome_iff_eq_none]

theorem mem_of_lookup {name : Text} {value : α} {table : List (Text × α)}
    (h : table.lookup name = some value) : (name, value) ∈ table := by
  obtain ⟨before, after, rfl, -⟩ := List.lookup_eq_some_iff.mp h
  simp

/-- With distinct names every entry is found. -/
theorem lookup_of_mem {name : Text} {value : α} {table : List (Text × α)}
    (hNodup : (table.map Prod.fst).Nodup) (h : (name, value) ∈ table) :
    table.lookup name = some value := by
  induction table with
  | nil => cases h
  | cons entry table ih =>
      rw [List.map_cons, List.nodup_cons] at hNodup
      rcases List.mem_cons.mp h with rfl | h
      · rw [lookup_cons, if_pos rfl]
      · have hName : name ≠ entry.1 := fun hEq => hNodup.1 (hEq ▸ List.mem_map_of_mem h)
        rw [lookup_cons, if_neg hName, ih hNodup.2 h]

/-- The order of entries whose names differ does not matter to a look-up. -/
theorem lookup_perm {table other : List (Text × α)} (hPerm : table.Perm other)
    (hNodup : (other.map Prod.fst).Nodup) (name : Text) :
    table.lookup name = other.lookup name := by
  cases hName : table.lookup name with
  | some value => exact (lookup_of_mem hNodup (hPerm.subset (mem_of_lookup hName))).symm
  | none =>
      rw [← notMem_names_iff, (hPerm.map Prod.fst).mem_iff, notMem_names_iff] at hName
      exact hName.symm

/-- A name that is entered last and nowhere before has its last value. -/
theorem lookup_concat {name : Text} {table : List (Text × α)} (h : name ∉ table.map Prod.fst)
    (value : α) : (table ++ [(name, value)]).lookup name = some value := by
  rw [List.lookup_append, notMem_names_iff.mp h, Option.none_or, lookup_cons, if_pos rfl]

theorem ofList_concat (entries : List (Text × α)) (name : Text) (value : α) :
    ofList (entries ++ [(name, value)]) = put name value (ofList entries) := by
  simp [ofList]

/-- A table whose names stand in the order of their first entry keeps to it. -/
theorem names_put_of_eraseDups {names : List Text} {table : Entries α}
    (h : table.map Prod.fst = names.eraseDups) (name : Text) (value : α) :
    (put name value table).map Prod.fst = (names ++ [name]).eraseDups := by
  rw [names_put, h, List.eraseDups_append]
  by_cases hMem : name ∈ names
  · simp [List.mem_eraseDups.mpr hMem, List.removeAll, hMem]
  · simp [List.mem_eraseDups, hMem, List.removeAll, List.eraseDups_cons]

/-- The names of a table built from entries, each at its first place. -/
theorem names_ofList (entries : List (Text × α)) :
    (ofList entries).map Prod.fst = (entries.map Prod.fst).eraseDups := by
  induction entries using List.reverseRecOn with
  | nil => rfl
  | append_singleton entries entry ih =>
      obtain ⟨name, value⟩ := entry
      rw [ofList_concat, List.map_append]
      exact names_put_of_eraseDups ih name value

/-- The values of a table built from entries, each the last of its name. -/
theorem lookup_ofList (entries : List (Text × α)) (name : Text) :
    (ofList entries).lookup name = entries.reverse.lookup name := by
  induction entries using List.reverseRecOn with
  | nil => rfl
  | append_singleton entries entry ih =>
      rw [ofList_concat, lookup_put, List.reverse_append, List.reverse_singleton,
        List.singleton_append, lookup_cons, ih]

/-- The names in a table that was made from entries are distinct. -/
theorem nodup_names_ofList (entries : List (Text × α)) :
    ((ofList entries).map Prod.fst).Nodup := by
  induction entries using List.reverseRecOn with
  | nil => exact List.nodup_nil
  | append_singleton entries entry ih =>
      rw [ofList_concat]
      exact nodup_names_put ih entry.1 entry.2

/-- A new name goes to the end. -/
theorem put_of_notMem {name : Text} {table : Entries α} (h : name ∉ table.map Prod.fst)
    (value : α) : put name value table = table ++ [(name, value)] := by
  induction table with
  | nil => rfl
  | cons entry table ih =>
      obtain ⟨present, old⟩ := entry
      simp only [List.map_cons, List.mem_cons, not_or] at h
      rw [put, if_neg (Ne.symm h.1), ih h.2, List.cons_append]

/-- Entries whose names differ are a table already. -/
theorem ofList_of_nodup {entries : List (Text × α)} (h : (entries.map Prod.fst).Nodup) :
    ofList entries = entries := by
  induction entries using List.reverseRecOn with
  | nil => rfl
  | append_singleton entries entry ih =>
      rw [List.map_append, List.nodup_append_comm, List.map_singleton, List.singleton_append,
        List.nodup_cons] at h
      rw [ofList_concat, ih h.2, put_of_notMem h.1]

/-- A table is determined by its names, in order and each once, and the
values that they have. -/
theorem eq_of_lookup {table other : List (Text × α)}
    (hNames : table.map Prod.fst = other.map Prod.fst) (hNodup : (table.map Prod.fst).Nodup)
    (hValues : ∀ name, table.lookup name = other.lookup name) : table = other := by
  induction table generalizing other with
  | nil => exact (List.map_eq_nil_iff.mp hNames.symm).symm
  | cons entry table ih =>
      cases other with
      | nil => cases hNames
      | cons entry' other =>
          obtain ⟨name, value⟩ := entry
          obtain ⟨name', value'⟩ := entry'
          simp only [List.map_cons, List.cons.injEq] at hNames
          obtain ⟨rfl, hNames⟩ := hNames
          rw [List.map_cons, List.nodup_cons] at hNodup
          have hFirst := hValues name
          simp only [lookup_cons, if_true, Option.some.injEq] at hFirst
          subst hFirst
          rw [ih hNames hNodup.2]
          intro other'
          by_cases h : other' = name
          · subst h
            have hAbsent := hNodup.1
            rw [hNames] at hAbsent
            rw [notMem_names_iff.mp hNodup.1, notMem_names_iff.mp hAbsent]
          · simpa [lookup_cons, h] using hValues other'

end DemurrageToken.Entries
