import DemurrageToken.Proofs.Binary64Rounding

/-! The exact values of binary64 numbers. Each value has one representation, but
for zero, which has two signs; and a number is said to equal an integer exactly
if its value is that integer, however large it is. -/
namespace DemurrageToken

/-- A rational number or an infinity. -/
inductive ExtendedRational where
  | rational (q : ℚ)
  | infinite (negative : Bool)

namespace Binary64

/-- The value of a magnitude. -/
def size (magnitude : Magnitude) : ℚ := significand magnitude * 2 ^ exponent magnitude

/-- The value of a number; NaN has none. -/
def value? : Binary64 → Option ExtendedRational
  | nan => none
  | infinite negative => some (.infinite negative)
  | finite negative magnitude =>
      some (.rational (if negative then -size magnitude else size magnitude))

/-! ### Magnitudes -/

theorem size_nonneg (magnitude : Magnitude) : 0 ≤ size magnitude := by
  rw [size]
  positivity

/-- The one magnitude without quantity is the first. -/
theorem size_eq_zero_iff {magnitude : Magnitude} : size magnitude = 0 ↔ magnitude = 0 := by
  constructor
  · intro h
    by_contra hNonzero
    have hPos : 0 < magnitude.val := Nat.pos_of_ne_zero fun hZero => hNonzero (Fin.ext hZero)
    have hSignificand := significand_pos hPos
    have hSize : 0 < size magnitude := by
      rw [size]
      positivity
    exact hSize.ne' h
  · rintro rfl
    simp [size, significand]

theorem size_eq_div (magnitude : Magnitude) :
    size magnitude = ((significand magnitude * 2 ^ (exponent magnitude).toNat : Nat) : ℚ) /
      (2 ^ (-exponent magnitude).toNat : Nat) := by
  rw [size, zpow_eq_div]
  push_cast
  ring

/-- Magnitudes of one value have one place, since the value has one. -/
theorem size_injective {m m' : Magnitude} (h : size m = size m') : m = m' := by
  rcases Nat.eq_zero_or_pos m.val with hZero | hPos
  · have hm : m = 0 := Fin.ext hZero
    rw [hm, size_eq_zero_iff.mpr rfl] at h
    rw [hm, size_eq_zero_iff.mp h.symm]
  · have hPos' : 0 < m'.val := by
      refine Nat.pos_of_ne_zero fun hZero => hPos.ne' ?_
      have hm' : m' = 0 := Fin.ext hZero
      rw [hm', size_eq_zero_iff.mpr rfl] at h
      exact congrArg Fin.val (size_eq_zero_iff.mp h)
    have hPower : ∀ k, 0 < 2 ^ k := fun k => Nat.pow_pos two_pos
    rw [size_eq_div, size_eq_div, div_eq_div_iff (by exact_mod_cast (hPower _).ne')
      (by exact_mod_cast (hPower _).ne')] at h
    have hCross : significand m' * 2 ^ (exponent m').toNat * 2 ^ (-exponent m).toNat =
        significand m * 2 ^ (exponent m).toNat * 2 ^ (-exponent m').toNat := by
      exact_mod_cast h.symm
    exact Fin.ext ((place_of_eq (hPower _) hPos hCross).symm.trans
      (place_of_eq (hPower _) hPos' rfl))

/-! ### Whole numbers -/

/-- The natural number that equals a magnitude, if there is one. -/
def whole? (magnitude : Magnitude) : Option Nat :=
  if 0 ≤ exponent magnitude then some (significand magnitude * Nat.pow 2 (exponent magnitude).toNat)
  else if significand magnitude % Nat.pow 2 (-exponent magnitude).toNat = 0 then
    some (significand magnitude / Nat.pow 2 (-exponent magnitude).toNat)
  else none

/-- A float is whole exactly if its magnitude is, and takes its sign from the float. -/
theorem toInt?_finite (negative : Bool) (magnitude : Magnitude) :
    (finite negative magnitude).toInt? =
      (whole? magnitude).map fun n : Nat => if negative then -(n : Int) else n := by
  have hSize : (finite negative magnitude).toInt? =
      (whole? magnitude >>= fun n => pure (n : Int)).map
        fun n => if negative then -n else n := rfl
  rw [hSize]
  cases whole? magnitude <;> rfl

/-- A magnitude is a whole number exactly if that is its quantity. -/
theorem whole?_eq_some_iff {magnitude : Magnitude} {n : Nat} :
    whole? magnitude = some n ↔ size magnitude = n := by
  rw [whole?, size_eq_div]
  simp only [Nat.pow_eq]
  split
  · next hExponent =>
      have hNone : (-exponent magnitude).toNat = 0 := by omega
      rw [hNone, Nat.pow_zero, Nat.cast_one, div_one, Nat.cast_inj, Option.some_inj]
  · next hExponent =>
      have hNone : (exponent magnitude).toNat = 0 := by omega
      have hUnit : 0 < 2 ^ (-exponent magnitude).toNat := Nat.pow_pos two_pos
      rw [hNone, Nat.pow_zero, Nat.mul_one, div_eq_iff (by exact_mod_cast hUnit.ne'),
        ← Nat.cast_mul, Nat.cast_inj]
      generalize 2 ^ (-exponent magnitude).toNat = unit at hUnit
      split
      · next hWhole =>
          rw [Option.some_inj, Nat.div_eq_iff_eq_mul_left hUnit (Nat.dvd_of_mod_eq_zero hWhole)]
      · next hBroken =>
          refine ⟨nofun, fun hEq => ?_⟩
          rw [hEq, Nat.mul_mod_left] at hBroken
          exact absurd rfl hBroken

/-- A number equals an integer if and only if its value is the integer. -/
theorem toInt?_eq_some_iff {x : Binary64} {n : Int} :
    x.toInt? = some n ↔ x.value? = some (.rational n) := by
  cases x with
  | nan => simp [toInt?, value?]
  | infinite negative => simp [toInt?, value?]
  | finite negative magnitude =>
      rw [toInt?_finite, Option.map_eq_some_iff, value?, Option.some_inj,
        ExtendedRational.rational.injEq]
      simp only [whole?_eq_some_iff]
      constructor
      · rintro ⟨k, hk, rfl⟩
        rw [hk]
        cases negative <;> simp
      · intro h
        have hSize := size_nonneg magnitude
        cases negative with
        | false =>
            simp only [Bool.false_eq_true, if_false] at h ⊢
            have hn : 0 ≤ n := by
              rw [h] at hSize
              exact_mod_cast hSize
            exact ⟨n.toNat, by rw [h]; exact_mod_cast (Int.toNat_of_nonneg hn).symm,
              Int.toNat_of_nonneg hn⟩
        | true =>
            simp only [if_true] at h ⊢
            have hNeg : size magnitude = ((-n : Int) : ℚ) := by
              push_cast
              linarith
            have hn : 0 ≤ -n := by
              rw [hNeg] at hSize
              exact_mod_cast hSize
            exact ⟨(-n).toNat, by rw [hNeg]; exact_mod_cast (Int.toNat_of_nonneg hn).symm, by omega⟩

/-- Apart from the two zeros, numbers of one value are one number. -/
theorem eq_of_value? {x y : Binary64} {q : ExtendedRational} (hx : x.value? = some q)
    (hy : y.value? = some q) (hBroken : x.toInt? = none) : x = y := by
  cases x with
  | nan => cases hx
  | infinite negative =>
      cases hx
      cases y with
      | infinite negative' =>
          cases hy
          rfl
      | nan => cases hy
      | finite => cases hy
  | finite negative magnitude =>
      cases hx
      cases y with
      | nan => cases hy
      | infinite => cases hy
      | finite negative' magnitude' =>
          have hNonzero : size magnitude ≠ 0 := by
            intro hZero
            have hInteger : (finite negative magnitude).toInt? = some 0 := by
              rw [toInt?_eq_some_iff, value?, hZero]
              cases negative <;> simp
            rw [hBroken] at hInteger
            cases hInteger
          have hSize := size_nonneg magnitude
          have hSize' := size_nonneg magnitude'
          simp only [value?, Option.some.injEq, ExtendedRational.rational.injEq] at hy
          -- Values of different signs are equal only at zero.
          cases negative <;> cases negative' <;>
            simp only [Bool.false_eq_true, if_false, if_true, neg_inj] at hy
          · rw [size_injective hy]
          · exact absurd (by linarith) hNonzero
          · exact absurd (by linarith) hNonzero
          · rw [size_injective hy]

end Binary64

end DemurrageToken
