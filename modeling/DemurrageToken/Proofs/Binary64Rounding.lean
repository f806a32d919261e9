import DemurrageToken.Binary64.Basic
import Mathlib.Algebra.Order.Field.Power
import Mathlib.Data.Int.Log
import Mathlib.Data.Rat.Floor
import Mathlib.Tactic.FieldSimp
import Mathlib.Tactic.NormNum
import Mathlib.Tactic.Positivity
import Mathlib.Tactic.Ring
import Mathlib.Tactic.SplitIfs

/-! Rounding depends on the quotient alone, not on the fraction that stands
for it, and a quotient that is a finite number is that number. The exponent is
compared with the logarithm of the quotient, in exact rational arithmetic. -/
namespace DemurrageToken.Binary64

/-! ### Exponents -/

/-- A power of two with an exponent of either sign, as a fraction of two powers whose
exponents are natural numbers. -/
theorem zpow_eq_div (k : Int) : (2 : ℚ) ^ k = 2 ^ k.toNat / 2 ^ (-k).toNat := by
  have hk : k = (k.toNat : Int) - ((-k).toNat : Int) := by omega
  conv_lhs => rw [hk]
  rw [zpow_sub₀ two_ne_zero, zpow_natCast, zpow_natCast]

/-- Scaling a fraction multiplies its quotient by the power of two. -/
theorem scaled_div {n d : Nat} (hd : 0 < d) (shift : Int) :
    ((scaled n d shift).1 : ℚ) / (scaled n d shift).2 = (n : ℚ) / d * 2 ^ shift := by
  have hd' : (d : ℚ) ≠ 0 := by positivity
  rw [zpow_eq_div]
  simp only [scaled, Nat.pow_eq, Nat.cast_mul, Nat.cast_pow, Nat.cast_ofNat]
  field_simp

theorem scaled_snd_pos {d : Nat} (hd : 0 < d) (n : Nat) (shift : Int) :
    0 < (scaled n d shift).2 :=
  Nat.mul_pos hd (Nat.pow_pos two_pos)

/-- The logarithms of the parts fix that of the quotient up to one. -/
theorem log_div_bounds {n d : Nat} (hn : 0 < n) (hd : 0 < d) :
    (Nat.log2 n : Int) - Nat.log2 d - 1 ≤ Int.log 2 ((n : ℚ) / d) ∧
      Int.log 2 ((n : ℚ) / d) ≤ (Nat.log2 n : Int) - Nat.log2 d := by
  have hPos : (0 : ℚ) < n / d := by positivity
  have hd' : (0 : ℚ) < d := by positivity
  have hnLower : (2 : ℚ) ^ Nat.log2 n ≤ n := by exact_mod_cast Nat.log2_self_le hn.ne'
  have hnUpper : (n : ℚ) < 2 ^ (Nat.log2 n + 1) := by exact_mod_cast Nat.lt_log2_self
  have hdLower : (2 : ℚ) ^ Nat.log2 d ≤ d := by exact_mod_cast Nat.log2_self_le hd.ne'
  have hdUpper : (d : ℚ) < 2 ^ (Nat.log2 d + 1) := by exact_mod_cast Nat.lt_log2_self
  have hLower : ((2 : Nat) : ℚ) ^ ((Nat.log2 n : Int) - (Nat.log2 d + 1 : Nat)) ≤ n / d := by
    rw [Nat.cast_ofNat, zpow_sub₀ two_ne_zero, zpow_natCast, zpow_natCast]
    exact div_le_div₀ (by positivity) hnLower hd' hdUpper.le
  have hUpper : (n : ℚ) / d < ((2 : Nat) : ℚ) ^ (((Nat.log2 n + 1 : Nat) : Int) - Nat.log2 d) := by
    rw [Nat.cast_ofNat, zpow_sub₀ two_ne_zero, zpow_natCast, zpow_natCast]
    exact div_lt_div₀ hnUpper hdLower (by positivity) (by positivity)
  have hLe := (Int.zpow_le_iff_le_log one_lt_two hPos).mp hLower
  have hLt := (Int.lt_zpow_iff_log_lt one_lt_two hPos).mp hUpper
  omega

/-- A quotient is too small for an exponent if its leading bit lies below that of the
least normal significand. -/
theorem scaled_lt_iff {n d : Nat} (hn : 0 < n) (hd : 0 < d) (e : Int) :
    (scaled n d (-e)).1 < perExponent * (scaled n d (-e)).2 ↔
      Int.log 2 ((n : ℚ) / d) < e + 52 := by
  have hPos : (0 : ℚ) < n / d := by positivity
  have hSnd : (0 : ℚ) < (scaled n d (-e)).2 := by exact_mod_cast scaled_snd_pos hd n (-e)
  have hPower : (0 : ℚ) < 2 ^ e := by positivity
  have hOffset : ((2 : Nat) : ℚ) ^ (e + 52) = (perExponent : Nat) * 2 ^ e := by
    rw [Nat.cast_ofNat, zpow_add₀ two_ne_zero, mul_comm]
    norm_num [perExponent]
  have hCast := Nat.cast_lt (α := ℚ) (m := (scaled n d (-e)).1)
    (n := perExponent * (scaled n d (-e)).2)
  rw [← hCast, Nat.cast_mul, ← div_lt_iff₀ hSnd, scaled_div hd, zpow_neg, ← div_eq_mul_inv,
    div_lt_iff₀ hPower, ← hOffset, Int.lt_zpow_iff_log_lt one_lt_two hPos]

/-- Above the least exponent, the significand has 53 bits. -/
theorem exponentOf_eq {n d : Nat} (hn : 0 < n) (hd : 0 < d) :
    exponentOf n d = max (-1074) (Int.log 2 ((n : ℚ) / d) - 52) := by
  have hBounds := log_div_bounds hn hd
  rw [exponentOf]
  simp only [scaled_lt_iff hn hd]
  split <;> omega

/-! ### Fractions of one quotient -/

theorem nearest_mul {c : Nat} (hc : 0 < c) (n d : Nat) :
    nearest (n * c) (d * c) = nearest n d := by
  have hTwice : 2 * (n % d * c) = 2 * (n % d) * c := by ring
  simp only [nearest, Nat.mul_div_mul_right _ _ hc, Nat.mul_mod_mul_right, hTwice,
    Nat.mul_lt_mul_right hc]

theorem nearest_congr {n d n' d' : Nat} (hd : 0 < d) (hd' : 0 < d') (h : n * d' = n' * d) :
    nearest n d = nearest n' d' := by
  rw [← nearest_mul hd' n d, ← nearest_mul hd n' d', h, Nat.mul_comm d' d]

/-- The place that `ofRatio` gives a quotient, before it is compared with the
greatest finite magnitude. -/
def place (n d : Nat) : Nat :=
  (exponentOf n d + 1074).toNat * perExponent +
    nearest (scaled n d (-exponentOf n d)).1 (scaled n d (-exponentOf n d)).2

/-- A quotient becomes the float at its place, or an infinity if there is no such
place. -/
theorem ofRatio_eq (negative : Bool) (n d : Nat) :
    ofRatio negative n d =
      if h : place n d < 2047 * perExponent then finite negative ⟨place n d, h⟩
      else infinite negative :=
  rfl

/-- Fractions of one quotient have one place among the magnitudes. -/
theorem place_congr {n d n' d' : Nat} (hn : 0 < n) (hd : 0 < d) (hd' : 0 < d')
    (h : n * d' = n' * d) : place n d = place n' d' := by
  have hn' : 0 < n' := Nat.pos_of_mul_pos_right (h ▸ Nat.mul_pos hn hd')
  have hQuotient : (n : ℚ) / d = n' / d' := by
    rw [div_eq_div_iff (by positivity) (by positivity)]
    exact_mod_cast h
  have hExponent : exponentOf n d = exponentOf n' d' := by
    rw [exponentOf_eq hn hd, exponentOf_eq hn' hd', hQuotient]
  have hNearest : ∀ shift, nearest (scaled n d shift).1 (scaled n d shift).2 =
      nearest (scaled n' d' shift).1 (scaled n' d' shift).2 := by
    intro shift
    refine nearest_congr (scaled_snd_pos hd n shift) (scaled_snd_pos hd' n' shift) ?_
    simp only [scaled]
    rw [Nat.mul_mul_mul_comm, h, Nat.mul_mul_mul_comm]
  rw [place, place, hExponent, hNearest]

/-- Fractions of one quotient are rounded to one float. -/
theorem ofRatio_congr {n d n' d' : Nat} (hn : 0 < n) (hd : 0 < d) (hd' : 0 < d')
    (h : n * d' = n' * d) (negative : Bool) : ofRatio negative n d = ofRatio negative n' d' := by
  simp only [ofRatio_eq, place_congr hn hd hd' h]

/-! ### Decimals of one value -/

/-- Zeros behind a number add to the count of its digits. -/
theorem length_toDigits_mul_pow {n : Nat} (hn : 0 < n) (k : Nat) :
    (Nat.toDigits 10 (n * 10 ^ k)).length = (Nat.toDigits 10 n).length + k := by
  induction k with
  | zero => simp
  | succ k ih =>
      have hPos : 0 < n * 10 ^ k := Nat.mul_pos hn (Nat.pow_pos (by decide))
      have hStep := Nat.toDigits_append_toDigits (b := 10) (d := 0) (by decide) hPos (by decide)
      have hEq : n * 10 ^ (k + 1) = 10 * (n * 10 ^ k) + 0 := by ring
      rw [hEq, ← hStep, List.length_append, ih, Nat.toDigits_zero, List.length_singleton,
        Nat.add_assoc]

/-- Zeros may be moved from the exponent to the digits. -/
theorem ofDecimal_mul_pow (negative : Bool) (digits k : Nat) (exponent : Int) :
    ofDecimal negative ⟨digits * 10 ^ k, exponent - k⟩ = ofDecimal negative ⟨digits, exponent⟩ := by
  rcases Nat.eq_zero_or_pos digits with rfl | hPos
  · simp [ofDecimal]
  · have hNonzero : ¬digits * 10 ^ k = 0 := (Nat.mul_pos hPos (Nat.pow_pos (by decide))).ne'
    have hLength : (((Nat.toDigits 10 (digits * 10 ^ k)).length : Nat) : Int) + (exponent - k) =
        (Nat.toDigits 10 digits).length + exponent := by
      rw [length_toDigits_mul_pow hPos]
      omega
    have hRatio : ofRatio negative (digits * 10 ^ k * Nat.pow 10 (exponent - k).toNat)
        (Nat.pow 10 (-(exponent - k)).toNat) =
        ofRatio negative (digits * Nat.pow 10 exponent.toNat) (Nat.pow 10 (-exponent).toNat) := by
      have hTen : ∀ k, 0 < Nat.pow 10 k := fun k => Nat.pow_pos (by decide)
      refine ofRatio_congr (Nat.mul_pos (Nat.pos_of_ne_zero hNonzero) (hTen _)) (hTen _) (hTen _)
        ?_ negative
      have hExponents : k + (exponent - k).toNat + (-exponent).toNat =
          exponent.toNat + (-(exponent - k)).toNat := by omega
      simp only [Nat.pow_eq, Nat.mul_assoc, ← Nat.pow_add]
      rw [hExponents]
    simp only [ofDecimal, hLength, hRatio, hNonzero, hPos.ne']

/-- The sign is passed through. -/
theorem ofDecimal_finite {d : Decimal} {magnitude : Magnitude}
    (h : ofDecimal false d = finite false magnitude) (negative : Bool) :
    ofDecimal negative d = finite negative magnitude := by
  simp only [ofDecimal, ofRatio_eq] at h ⊢
  split_ifs at h ⊢ <;> cases h <;> rfl

/-! ### Exact quotients -/

/-- How a magnitude is put together from its exponent and its significand,
which has 53 bits unless the exponent is the least one. -/
theorem magnitude_eq (magnitude : Magnitude) :
    magnitude.val = (exponent magnitude + 1074).toNat * perExponent + significand magnitude ∧
      -1074 ≤ exponent magnitude ∧ exponent magnitude ≤ 971 ∧
      significand magnitude < 2 ^ 53 ∧
      (exponent magnitude = -1074 ∨ 2 ^ 52 ≤ significand magnitude) := by
  obtain ⟨m, hm⟩ := magnitude
  simp only [exponent, significand, perExponent] at hm ⊢
  split <;> omega

theorem significand_pos {magnitude : Magnitude} (hPos : 0 < magnitude.val) :
    0 < significand magnitude := by
  simp only [significand, perExponent]
  split <;> omega

/-- Where the leading bit of a number lies depends on how many bits its significand
has. -/
theorem log_mul_lt_iff {m : Nat} (hm : 0 < m) (e : Int) (bits : Nat) :
    Int.log 2 ((m : ℚ) * 2 ^ e) < e + bits ↔ m < 2 ^ bits := by
  have hPower : (0 : ℚ) < 2 ^ e := by positivity
  rw [← Int.lt_zpow_iff_log_lt one_lt_two (by positivity), Nat.cast_ofNat,
    zpow_add₀ two_ne_zero, mul_comm, mul_lt_mul_iff_right₀ hPower, zpow_natCast]
  exact_mod_cast Iff.rfl

theorem nearest_one (n : Nat) : nearest n 1 = n := by
  simp [nearest, Nat.mod_one]

/-- A quotient that equals a magnitude has its place. -/
theorem place_of_eq {n d : Nat} (hd : 0 < d) {magnitude : Magnitude} (hPos : 0 < magnitude.val)
    (h : n * 2 ^ (-exponent magnitude).toNat =
      significand magnitude * 2 ^ (exponent magnitude).toNat * d) :
    place n d = magnitude.val := by
  obtain ⟨hMagnitude, hLeast, -, hBits, hNormal⟩ := magnitude_eq magnitude
  have hm := significand_pos hPos
  generalize significand magnitude = m at *
  generalize exponent magnitude = e at *
  have hNumerator : 0 < m * 2 ^ e.toNat := Nat.mul_pos hm (Nat.pow_pos two_pos)
  have hDenominator : 0 < 2 ^ (-e).toNat := Nat.pow_pos two_pos
  have hn : 0 < n := Nat.pos_of_mul_pos_right (h ▸ Nat.mul_pos hNumerator hd)
  rw [place_congr hn hd hDenominator h]
  have hQuotient : ((m * 2 ^ e.toNat : Nat) : ℚ) / (2 ^ (-e).toNat : Nat) = m * 2 ^ e := by
    rw [zpow_eq_div]
    push_cast
    ring
  have hExponent : exponentOf (m * 2 ^ e.toNat) (2 ^ (-e).toNat) = e := by
    have hUpper := (log_mul_lt_iff hm e 53).mpr hBits
    have hLower := log_mul_lt_iff hm e 52
    rw [exponentOf_eq hNumerator hDenominator, hQuotient]
    omega
  have hScaled : scaled (m * 2 ^ e.toNat) (2 ^ (-e).toNat) (-e) =
      (m * 2 ^ (e.toNat + (-e).toNat), 1 * 2 ^ (e.toNat + (-e).toNat)) := by
    simp only [scaled, Nat.pow_eq, neg_neg, Nat.mul_assoc, ← Nat.pow_add, Nat.one_mul,
      Nat.add_comm]
  rw [place, hExponent, hScaled, nearest_mul (Nat.pow_pos two_pos), nearest_one, hMagnitude]

/-- A fraction whose quotient is a magnitude's is rounded to that magnitude. -/
theorem ofRatio_of_eq {n d : Nat} (hd : 0 < d) {magnitude : Magnitude} (hPos : 0 < magnitude.val)
    (h : n * 2 ^ (-exponent magnitude).toNat =
      significand magnitude * 2 ^ (exponent magnitude).toNat * d) (negative : Bool) :
    ofRatio negative n d = finite negative magnitude := by
  simp only [ofRatio_eq, place_of_eq hd hPos h, magnitude.isLt, dif_pos]

/-- No finite magnitude is cut off before it is rounded. -/
theorem exactDecimal_bounds {magnitude : Magnitude} (hPos : 0 < magnitude.val) :
    -330 ≤ ((Nat.toDigits 10 (exactDecimal magnitude).digits).length : Int) +
        (exactDecimal magnitude).exponent ∧
      ((Nat.toDigits 10 (exactDecimal magnitude).digits).length : Int) +
        (exactDecimal magnitude).exponent ≤ 310 := by
  obtain ⟨-, hLeast, hGreatest, hBits, -⟩ := magnitude_eq magnitude
  have hm := significand_pos hPos
  simp only [exactDecimal, Nat.pow_eq]
  generalize significand magnitude = m at *
  generalize exponent magnitude = e at *
  split
  · next he =>
      have hSize : m * 2 ^ e.toNat < 10 ^ 310 := by
        calc m * 2 ^ e.toNat ≤ 2 ^ 53 * 2 ^ 971 :=
              Nat.mul_le_mul hBits.le (Nat.pow_le_pow_right two_pos (by omega))
          _ < 10 ^ 310 := by decide +kernel
      have hLength := (Nat.length_toDigits_le_iff (b := 10) (by decide) (by decide)).mpr hSize
      dsimp only
      omega
  · next he =>
      obtain ⟨k, rfl⟩ : ∃ k : Nat, e = -(k : Int) := ⟨(-e).toNat, by omega⟩
      dsimp only
      rw [neg_neg, Int.toNat_natCast]
      constructor
      · by_contra hShort
        have hLengthPos := Nat.length_toDigits_pos (b := 10) (n := m * 5 ^ k)
        have hCut : m * 5 ^ k < 10 ^ (k - 331) :=
          (Nat.length_toDigits_le_iff (by decide) (by omega)).mp (by omega)
        have hk : k ≤ 1074 := by omega
        have hPowers : 5 ^ k * 10 ^ 331 < 5 ^ k * 2 ^ k := by
          calc 5 ^ k * 10 ^ 331 ≤ m * 5 ^ k * 10 ^ 331 :=
                Nat.mul_le_mul_right _ (Nat.le_mul_of_pos_left _ hm)
            _ < 10 ^ (k - 331) * 10 ^ 331 := Nat.mul_lt_mul_of_pos_right hCut (by positivity)
            _ = 5 ^ k * 2 ^ k := by
              rw [← Nat.pow_add, Nat.sub_add_cancel (by omega), ← Nat.mul_pow]
        have hLarge : 10 ^ 331 < 2 ^ k := Nat.lt_of_mul_lt_mul_left hPowers
        exact absurd (hLarge.trans_le (Nat.pow_le_pow_right two_pos hk)) (by decide +kernel)
      · have hSize : m * 5 ^ k < 10 ^ (k + 16) := by
          calc m * 5 ^ k < 10 ^ 16 * 10 ^ k :=
                Nat.mul_lt_mul_of_lt_of_le (hBits.trans (by norm_num))
                  (Nat.pow_le_pow_left (by decide) k) (by positivity)
            _ = 10 ^ (k + 16) := by ring
        have hLength := (Nat.length_toDigits_le_iff (b := 10) (by decide) (by omega)).mpr hSize
        omega

theorem exactDecimal_digits_pos {magnitude : Magnitude} (hPos : 0 < magnitude.val) :
    0 < (exactDecimal magnitude).digits := by
  have hm := significand_pos hPos
  simp only [exactDecimal, Nat.pow_eq]
  split <;> positivity

/-- The exact decimal, as the fraction that is rounded, equals the magnitude. -/
theorem exactDecimal_ratio (magnitude : Magnitude) :
    (exactDecimal magnitude).digits * Nat.pow 10 (exactDecimal magnitude).exponent.toNat *
        2 ^ (-exponent magnitude).toNat =
      significand magnitude * 2 ^ (exponent magnitude).toNat *
        Nat.pow 10 (-(exactDecimal magnitude).exponent).toNat := by
  simp only [exactDecimal, Nat.pow_eq]
  split
  · next he =>
      have hNone : (-exponent magnitude).toNat = 0 := by omega
      simp [hNone]
  · next he =>
      have hNone : (exponent magnitude).toNat = 0 := by omega
      simp only [hNone, Nat.pow_zero, Nat.mul_one, Nat.mul_assoc, ← Nat.mul_pow]

/-- The exact decimal of a magnitude reads back as it. -/
theorem ofDecimal_exactDecimal (negative : Bool) (magnitude : Magnitude) :
    ofDecimal negative (exactDecimal magnitude) = finite negative magnitude := by
  rcases Nat.eq_zero_or_pos magnitude.val with hZero | hPos
  · have hDigits : (exactDecimal magnitude).digits = 0 := by
      have hSignificand : significand magnitude = 0 := by simp [significand, hZero]
      simp only [exactDecimal, hSignificand, Nat.zero_mul]
      split <;> rfl
    rw [ofDecimal, if_pos (.inl hDigits)]
    exact congrArg _ (Fin.ext hZero.symm)
  · obtain ⟨hLower, hUpper⟩ := exactDecimal_bounds hPos
    have hDigits := exactDecimal_digits_pos hPos
    have hTen : 0 < Nat.pow 10 (-(exactDecimal magnitude).exponent).toNat :=
      Nat.pow_pos (by decide)
    rw [ofDecimal, if_neg (by omega), if_neg (by omega)]
    exact ofRatio_of_eq hTen hPos (exactDecimal_ratio magnitude) negative

end DemurrageToken.Binary64
