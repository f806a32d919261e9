import Mathlib.Data.List.Forall2

/-! When a computation that may fail gives a result. Chains of steps are taken
apart with these instead of by unfolding the monad. -/
namespace Except

variable {ε ε' α β : Type}

theorem map_eq_ok_iff {f : α → β} {x : Except ε α} {b : β} :
    x.map f = .ok b ↔ ∃ a, x = .ok a ∧ f a = b := by
  cases x <;> simp [Except.map]

@[simp] theorem mapError_ok (f : ε → ε') (a : α) : (.ok a : Except ε α).mapError f = .ok a := rfl

@[simp] theorem mapError_error (f : ε → ε') (e : ε) :
    (.error e : Except ε α).mapError f = .error (f e) := rfl

theorem mapError_eq_ok_iff {f : ε → ε'} {x : Except ε α} {a : α} :
    x.mapError f = .ok a ↔ x = .ok a := by
  cases x <;> simp

theorem bind_eq_ok_iff {x : Except ε α} {f : α → Except ε β} {b : β} :
    (x >>= f) = .ok b ↔ ∃ a, x = .ok a ∧ f a = .ok b := by
  cases x <;> simp [bind, Except.bind]

@[simp] theorem ok_bind (a : α) (f : α → Except ε β) : (Except.ok a >>= f) = f a := rfl

theorem map_eq_error_iff {f : α → β} {x : Except ε α} {e : ε} :
    x.map f = .error e ↔ x = .error e := by
  cases x <;> simp [Except.map]

theorem mapError_eq_error_iff {f : ε → ε'} {x : Except ε α} {e : ε'} :
    x.mapError f = .error e ↔ ∃ cause, x = .error cause ∧ f cause = e := by
  cases x <;> simp

theorem bind_eq_error_iff {x : Except ε α} {f : α → Except ε β} {e : ε} :
    (x >>= f) = .error e ↔ x = .error e ∨ ∃ a, x = .ok a ∧ f a = .error e := by
  cases x <;> simp [bind, Except.bind]

/-- A guard lets a computation go on if its condition does not hold. -/
theorem guard_eq_ok_iff {condition : Prop} [Decidable condition] {e : ε}
    {next : PUnit → Except ε β} {b : β} :
    (if condition then (throw e : Except ε PUnit) >>= next else next ⟨⟩) = .ok b ↔
      ¬condition ∧ next ⟨⟩ = .ok b := by
  split
  · next h =>
      constructor
      · intro hError
        cases hError
      · exact fun hBoth => absurd h hBoth.1
  · next h => exact ⟨fun hNext => ⟨h, hNext⟩, fun hBoth => hBoth.2⟩

/-- If a step succeeds on a whole list, there is a result for each item, and every
result comes from an item. -/
theorem mem_of_mapM {f : α → Except ε β} {xs : List α} {ys : List β} (h : xs.mapM f = .ok ys) :
    ys.length = xs.length ∧ ∀ y ∈ ys, ∃ x ∈ xs, f x = .ok y := by
  induction xs generalizing ys with
  | nil =>
      cases h
      exact ⟨rfl, fun y hy => absurd hy List.not_mem_nil⟩
  | cons x xs ih =>
      simp only [List.mapM_cons, bind_eq_ok_iff] at h
      obtain ⟨y, hy, rest, hRest, hWhole⟩ := h
      cases hWhole
      obtain ⟨hLength, hMem⟩ := ih hRest
      refine ⟨congrArg Nat.succ hLength, fun z hz => ?_⟩
      rcases List.mem_cons.mp hz with rfl | hz
      · exact ⟨x, List.mem_cons_self .., hy⟩
      · obtain ⟨w, hw, hEq⟩ := hMem z hz
        exact ⟨w, List.mem_cons_of_mem _ hw, hEq⟩

/-- If a step succeeds on a whole list, it does on each item. -/
theorem exists_of_mapM {f : α → Except ε β} {xs : List α} {ys : List β} (h : xs.mapM f = .ok ys) :
    ∀ x ∈ xs, ∃ y, f x = .ok y := by
  induction xs generalizing ys with
  | nil => exact fun x hx => absurd hx List.not_mem_nil
  | cons x xs ih =>
      simp only [List.mapM_cons, bind_eq_ok_iff] at h
      obtain ⟨y, hy, rest, hRest, -⟩ := h
      exact List.forall_mem_cons.mpr ⟨⟨y, hy⟩, ih hRest⟩

end Except

/-- A step succeeds on a whole list exactly if it does item by item. -/
theorem List.mapM_eq_some_iff {α β : Type} {f : α → Option β} {xs : List α} {ys : List β} :
    xs.mapM f = some ys ↔ List.Forall₂ (fun x y => f x = some y) xs ys := by
  induction xs generalizing ys with
  | nil => simp [eq_comm]
  | cons x xs ih =>
      rw [List.mapM_cons, List.forall₂_cons_left_iff]
      simp only [bind, pure, Option.bind_eq_some_iff, Option.some.injEq, ih]
      refine exists_congr fun y => ?_
      constructor
      · rintro ⟨hy, rest, hRest, rfl⟩
        exact ⟨rest, hy, hRest, rfl⟩
      · rintro ⟨rest, hy, hRest, rfl⟩
        exact ⟨hy, rest, hRest, rfl⟩
