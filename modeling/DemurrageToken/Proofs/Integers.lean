import DemurrageToken.Proofs.Text
import DemurrageToken.Text.Integer
import Mathlib.Algebra.Group.Int.Defs
import Mathlib.Algebra.Group.Nat.Defs

/-! Integers in digits of ASCII: what they show, and how large that is. -/
namespace DemurrageToken

namespace Text

/-- The integers that can be written, by their size. -/
theorem hasNumeral_eq_true_iff (n : Int) :
    hasNumeral n = true ↔ n.natAbs < 10 ^ integerDigitLimit := by
  rw [hasNumeral, decide_eq_true_eq]
  exact Nat.length_toDigits_le_iff (by decide) (by decide)

/-- The first power of ten without a text, and all after it. -/
theorem hasNumeral_pow {k : Nat} (h : integerDigitLimit ≤ k) : hasNumeral (10 ^ k) = false := by
  rw [Bool.eq_false_iff, ne_eq, hasNumeral_eq_true_iff, Int.natAbs_pow, Nat.not_lt]
  exact Nat.pow_le_pow_right (by decide) h

theorem digit_bounds {d : Char} (h : d.isDigit = true) :
    48 ≤ (CodePoint.scalar d).val ∧ (CodePoint.scalar d).val ≤ 57 := by
  simpa [Char.isDigit, UInt32.le_iff_toNat_le, CodePoint.val] using h

/-- The digits of ASCII come first among the digits of all scripts. -/
theorem digitValue?_digit {d : Char} (h : d.isDigit = true) :
    CodePoint.digitValue? (.scalar d) = some (d.toNat - '0'.toNat) := by
  obtain ⟨hLeast, hMost⟩ := digit_bounds h
  have hRange : (decide (0x30 ≤ (CodePoint.scalar d).val) &&
      decide ((CodePoint.scalar d).val < 0x30 + 10)) = true := by
    rw [decide_eq_true hLeast, decide_eq_true (Nat.lt_succ_of_le hMost)]
    rfl
  have hZeros : CodePoint.zeros = 0x30 :: CodePoint.zeros.tail := rfl
  rw [CodePoint.digitValue?, hZeros, List.find?_cons, hRange]
  rfl

/-- Digits without underscores have their values one by one. -/
theorem digitValues?_digits {ds : List Char} (hDigits : ∀ d ∈ ds, d.isDigit = true)
    (hNonempty : ds ≠ []) :
    digitValues? (ofChars ds) = some (ds.map fun d => d.toNat - '0'.toNat) := by
  induction ds with
  | nil => exact absurd rfl hNonempty
  | cons d ds ih =>
      have hd := digitValue?_digit (hDigits d (List.mem_cons_self ..))
      cases ds with
      | nil => simp [ofChars, digitValues?, hd]
      | cons e ds =>
          have hTail := ih (fun f hf => hDigits f (List.mem_cons_of_mem _ hf)) (by simp)
          have he := hDigits e (List.mem_cons_of_mem _ (List.mem_cons_self ..))
          have hScore : e ≠ '_' := by
            rintro rfl
            simp at he
          simp only [ofChars, List.map_cons] at hTail ⊢
          simp [digitValues?, hd, hScore, hTail]

/-- Adding up values from the left is what the library does with digits. -/
theorem ofDigitChars_eq_foldl_values (ds : List Char) (start : Nat) :
    (ds.map fun d => d.toNat - '0'.toNat).foldl (fun n d => n * 10 + d) start =
      Nat.ofDigitChars 10 ds start := by
  induction ds generalizing start with
  | nil => rfl
  | cons d ds ih =>
      rw [List.map_cons, List.foldl_cons, Nat.ofDigitChars_cons, ih, Nat.mul_comm]

/-- The text of an integer: a sign or none, and digits. -/
inductive IsDecimal : Text → Int → Prop where
  | unsigned {ds : List Char} (hDigits : ∀ d ∈ ds, d.isDigit = true) (hNonempty : ds ≠ [])
      (hLength : ds.length ≤ integerDigitLimit) :
      IsDecimal (ofChars ds) (Nat.ofDigitChars 10 ds 0 : Int)
  | plus {ds : List Char} (hDigits : ∀ d ∈ ds, d.isDigit = true) (hNonempty : ds ≠ [])
      (hLength : ds.length ≤ integerDigitLimit) :
      IsDecimal (.scalar '+' :: ofChars ds) (Nat.ofDigitChars 10 ds 0 : Int)
  | minus {ds : List Char} (hDigits : ∀ d ∈ ds, d.isDigit = true) (hNonempty : ds ≠ [])
      (hLength : ds.length ≤ integerDigitLimit) :
      IsDecimal (.scalar '-' :: ofChars ds) (-(Nat.ofDigitChars 10 ds 0 : Int))

/-- No digit is taken for white space around an integer. -/
theorem isIntegerBlank_digit {d : Char} (h : d.isDigit = true) :
    isIntegerBlank (.scalar d) = false := by
  obtain ⟨hLeast, hMost⟩ := digit_bounds h
  have hAscii : (CodePoint.scalar d).isAscii = true := by
    rw [CodePoint.isAscii, decide_eq_true_eq]
    omega
  rw [isIntegerBlank, if_pos hAscii]
  simp only [Bool.or_eq_false_iff, Bool.and_eq_false_iff, decide_eq_false_iff_not]
  omega

theorem strip_eq_self {t : Text} (h : ∀ c ∈ t, isIntegerBlank c = false) :
    dropEndWhile isIntegerBlank (t.dropWhile isIntegerBlank) = t := by
  rw [dropWhile_eq_self fun c hc => h c (List.mem_of_mem_head? hc),
    dropEndWhile_eq_self fun c hc => h c (List.mem_of_getLast? hc)]

/-- Digits of ASCII, behind a sign or none, show the number that they are
digits of. -/
theorem toInt?_of_isDecimal {t : Text} {n : Int} (h : IsDecimal t n) : toInt? t = some n := by
  have hValues : ∀ {ds : List Char}, (∀ d ∈ ds, d.isDigit = true) → ds ≠ [] →
      ds.length ≤ integerDigitLimit → ∃ values, digitValues? (ofChars ds) = some values ∧
        ¬integerDigitLimit < values.length ∧
        values.foldl (fun n d => n * 10 + d) 0 = Nat.ofDigitChars 10 ds 0 := by
    intro ds hDigits hNonempty hLength
    refine ⟨_, digitValues?_digits hDigits hNonempty, ?_, ofDigitChars_eq_foldl_values ds 0⟩
    rw [List.length_map]
    omega
  have hBlank : ∀ {ds : List Char}, (∀ d ∈ ds, d.isDigit = true) →
      ∀ c ∈ ofChars ds, isIntegerBlank c = false := by
    intro ds hDigits c hc
    obtain ⟨d, hd, rfl⟩ := List.mem_map.mp hc
    exact isIntegerBlank_digit (hDigits d hd)
  cases h with
  | @unsigned ds hDigits hNonempty hLength =>
      obtain ⟨values, hRead, hCount, hFold⟩ := hValues hDigits hNonempty hLength
      rw [toInt?, strip_eq_self (hBlank hDigits)]
      cases ds with
      | nil => exact absurd rfl hNonempty
      | cons d ds =>
          have hDigit := hDigits d (List.mem_cons_self ..)
          have hMinus : d ≠ '-' := by
            rintro rfl
            simp at hDigit
          have hPlus : d ≠ '+' := by
            rintro rfl
            simp at hDigit
          simp only [ofChars, List.map_cons] at hRead ⊢
          -- A digit is neither of the signs that would be cut off.
          split
          · next h => simp [hMinus] at h
          · next h => simp [hPlus] at h
          · simp only [hRead, Option.bind_eq_bind, Option.bind_some, if_neg hCount, hFold]
            rfl
  | @plus ds hDigits hNonempty hLength =>
      obtain ⟨values, hRead, hCount, hFold⟩ := hValues hDigits hNonempty hLength
      rw [toInt?, strip_eq_self (List.forall_mem_cons.mpr ⟨by decide, hBlank hDigits⟩)]
      simp only [hRead, Option.bind_eq_bind, Option.bind_some, if_neg hCount, hFold]
      rfl
  | @minus ds hDigits hNonempty hLength =>
      obtain ⟨values, hRead, hCount, hFold⟩ := hValues hDigits hNonempty hLength
      rw [toInt?, strip_eq_self (List.forall_mem_cons.mpr ⟨by decide, hBlank hDigits⟩)]
      simp only [hRead, Option.bind_eq_bind, Option.bind_some, if_neg hCount, hFold]
      rfl

/-- A number is below the power of ten that the count of its digits gives. -/
theorem ofDigitChars_lt {ds : List Char} (hDigits : ∀ d ∈ ds, d.isDigit = true) :
    Nat.ofDigitChars 10 ds 0 < 10 ^ ds.length := by
  induction ds with
  | nil => simp
  | cons d ds ih =>
      have hTail := ih fun e he => hDigits e (List.mem_cons_of_mem _ he)
      have hMost : d.toNat ≤ 57 := (digit_bounds (hDigits d (List.mem_cons_self ..))).2
      have hDigit : 10 ^ ds.length * (10 * 0 + (d.toNat - '0'.toNat)) ≤ 10 ^ ds.length * 9 :=
        Nat.mul_le_mul_left _ (by simp; omega)
      rw [Nat.ofDigitChars_cons, Nat.ofDigitChars_eq_ofDigitChars_zero, List.length_cons,
        Nat.pow_succ]
      omega

theorem length_toDigits_of_isDecimal {t : Text} {n : Int} (h : IsDecimal t n) :
    (Nat.toDigits 10 n.natAbs).length ≤ integerDigitLimit := by
  have hLength : ∀ {ds : List Char}, (∀ d ∈ ds, d.isDigit = true) → ds ≠ [] →
      ds.length ≤ integerDigitLimit →
      (Nat.toDigits 10 (Nat.ofDigitChars 10 ds 0)).length ≤ integerDigitLimit := by
    intro ds hDigits hNonempty hLength
    exact ((Nat.length_toDigits_le_iff (by decide) (List.length_pos_iff.mpr hNonempty)).mpr
      (ofDigitChars_lt hDigits)).trans hLength
  cases h with
  | unsigned hDigits hNonempty hLimit => exact hLength hDigits hNonempty hLimit
  | plus hDigits hNonempty hLimit => exact hLength hDigits hNonempty hLimit
  | minus hDigits hNonempty hLimit =>
      rw [Int.natAbs_neg]
      exact hLength hDigits hNonempty hLimit

end Text

end DemurrageToken
