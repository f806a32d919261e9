import DemurrageToken.Binary64.Style
import DemurrageToken.Proofs.Binary64Rounding
import DemurrageToken.Proofs.JsonGrammar

/-! Written numbers are numbers of the grammar and stand for what was written.
The shortest decimal reads back by construction, and how it is laid out moves
zeros between its digits and its exponent, which does not change its value. -/
namespace DemurrageToken

/-! ### The shortest decimal -/

namespace Binary64

/-- Zeros at the end of a decimal may go without changing the float. -/
theorem ofDecimal_stripZeros (negative : Bool) (bound : Nat) (d : Decimal) :
    ofDecimal negative (stripZeros bound d) = ofDecimal negative d := by
  induction bound generalizing d with
  | zero => rfl
  | succ bound ih =>
      rw [stripZeros]
      split
      · next h =>
          have hDigits : d.digits / 10 * 10 ^ 1 = d.digits := by omega
          have hExponent : d.exponent + 1 - (1 : Nat) = d.exponent := by omega
          rw [ih, ← ofDecimal_mul_pow negative (d.digits / 10) 1, hDigits, hExponent]
      · rfl

/-- The shortest decimal of a magnitude is rounded to that magnitude again. -/
theorem ofDecimal_shortest (negative : Bool) (magnitude : Magnitude) :
    ofDecimal negative (shortest magnitude) = finite negative magnitude := by
  rw [shortest, ofDecimal_stripZeros]
  cases hFound : (List.range ((Nat.toDigits 10 (exactDecimal magnitude).digits).length - 1)).findSome?
      fun kept => (neighbours (exactDecimal magnitude)
        ((Nat.toDigits 10 (exactDecimal magnitude).digits).length - (kept + 1))).find?
          (readsBack magnitude) with
  | none => exact ofDecimal_exactDecimal negative magnitude
  | some d =>
      obtain ⟨kept, -, hFind⟩ := List.exists_of_findSome?_eq_some hFound
      have hReads := List.find?_some hFind
      exact ofDecimal_finite (of_decide_eq_true hReads) negative

end Binary64

namespace Json

open Grammar

/-! ### Digits -/

theorem digits_toDigits (n : Nat) : Digits (Nat.toDigits 10 n) :=
  ⟨Nat.toDigits_ne_nil, fun _ h => Nat.isDigit_of_mem_toDigits (by decide) (by decide) h⟩

/-- No number but zero begins with a zero. -/
theorem head?_toDigits {n : Nat} (hn : n ≠ 0) : (Nat.toDigits 10 n).head? ≠ some '0' := by
  induction n using Nat.strongRecOn with
  | ind n ih =>
      by_cases hSmall : n < 10
      · have hDigits : ∀ m : Fin 10, m.val ≠ 0 → m.val.digitChar ≠ '0' := by decide
        rw [Nat.toDigits_of_lt_base hSmall]
        simpa using hDigits ⟨n, hSmall⟩ hn
      · rw [Nat.toDigits_of_base_le (by decide) (Nat.le_of_not_lt hSmall),
          List.head?_append_of_ne_nil _ Nat.toDigits_ne_nil]
        exact ih (n / 10) (by omega) (by omega)

theorem whole_toDigits (n : Nat) : Whole (Nat.toDigits 10 n) := by
  by_cases hn : n = 0
  · subst hn
    exact .inl rfl
  · exact .inr ⟨digits_toDigits n, head?_toDigits hn⟩

/-- An integer of few enough digits is read back. -/
theorem number_ofInt {n : Int}
    (hDigits : (Nat.toDigits 10 n.natAbs).length ≤ Text.integerDigitLimit) :
    Number (Text.ofInt n) (.int n) := by
  cases n with
  | ofNat n =>
      have hNumber := @Number.integer false _ (whole_toDigits n) hDigits
      rwa [Nat.ofDigitChars_ten_toDigits] at hNumber
  | negSucc n =>
      have hNumber := @Number.integer true _ (whole_toDigits (n + 1)) hDigits
      rwa [Nat.ofDigitChars_ten_toDigits] at hNumber

/-! ### Layouts -/

/-- Digits, a point and digits. -/
theorem number_positional (negative : Bool) {whole fraction : List Char} (hWhole : Whole whole)
    (hFraction : Digits fraction) :
    Number (sign negative ++ Text.ofChars (whole ++ '.' :: fraction))
      (.float (Binary64.ofDecimal negative
        ⟨Nat.ofDigitChars 10 (whole ++ fraction) 0, -fraction.length⟩)) := by
  have hNumber := @Number.float negative _ _ _ _ _ hWhole (.digits hFraction) .absent
    (.inl hFraction.1)
  simpa [Text.ofChars] using hNumber

/-- A power is written with its sign, and zeros before its digits are allowed. -/
theorem power_scale (lead : Int) (zeros : Nat) :
    Power (Text.ofChars ('e' :: (if lead < 0 then '-' else '+') ::
      (List.replicate zeros '0' ++ Nat.toDigits 10 lead.natAbs))) (some lead) := by
  have hDigits : Digits (List.replicate zeros '0' ++ Nat.toDigits 10 lead.natAbs) := by
    refine ⟨by simp [Nat.toDigits_ne_nil], fun d hd => ?_⟩
    rcases List.mem_append.mp hd with hd | hd
    · rw [List.eq_of_mem_replicate hd]
      rfl
    · exact (digits_toDigits _).2 d hd
  have hSize : Nat.ofDigitChars 10 (List.replicate zeros '0' ++ Nat.toDigits 10 lead.natAbs) 0 =
      lead.natAbs := by
    rw [Nat.ofDigitChars_append, Nat.ofDigitChars_replicate_zero, Nat.mul_zero,
      Nat.ofDigitChars_ten_toDigits]
  split
  · have hPower := Power.digits (.inl rfl) .minus hDigits
    have hLead : signed true lead.natAbs = lead := by simp only [signed, if_true]; omega
    rwa [hSize, hLead] at hPower
  · have hPower := Power.digits (.inl rfl) .plus hDigits
    have hLead : signed false lead.natAbs = lead := by
      simp only [signed, Bool.false_eq_true, if_false]
      omega
    rwa [hSize, hLead] at hPower

/-- Digits with a power; a single digit stands without a point. -/
theorem number_exponential (negative : Bool) {first : Char} {more : List Char}
    (hDigits : Digits (first :: more)) (hFirst : first ≠ '0') (lead : Int) (zeros : Nat) :
    Number (sign negative ++ Text.ofChars (first :: ((if more = [] then [] else '.' :: more) ++
        'e' :: (if lead < 0 then '-' else '+') ::
          (List.replicate zeros '0' ++ Nat.toDigits 10 lead.natAbs))))
      (.float (Binary64.ofDecimal negative
        ⟨Nat.ofDigitChars 10 (first :: more) 0, lead - more.length⟩)) := by
  have hWhole : Whole [first] :=
    .inr ⟨⟨by simp, fun d hd => hDigits.2 d (by simp_all)⟩, by simpa using hFirst⟩
  have hFraction : Fraction (Text.ofChars (if more = [] then [] else '.' :: more)) more := by
    split
    · next hNil =>
        subst hNil
        exact .absent
    · next hMore => exact .digits ⟨hMore, fun d hd => hDigits.2 d (List.mem_cons_of_mem _ hd)⟩
  have hNumber := @Number.float negative _ _ _ _ _ hWhole hFraction (power_scale lead zeros)
    (.inr (by simp))
  simpa only [Text.ofChars, List.map_cons, List.map_nil, List.map_append, List.append_assoc,
    List.cons_append, List.nil_append, Option.getD_some] using hNumber

/-- Below one, zeros follow the point. -/
theorem number_below_one (negative : Bool) {d : Decimal}
    (hLead : d.exponent + (Nat.toDigits 10 d.digits).length - 1 < 0) :
    Number (sign negative ++ Text.ofChars ('0' :: '.' :: (List.replicate
        (-(d.exponent + (Nat.toDigits 10 d.digits).length - 1) - 1).toNat '0' ++
          Nat.toDigits 10 d.digits)))
      (.float (Binary64.ofDecimal negative d)) := by
  have hDigits := digits_toDigits d.digits
  have hFraction : Digits (List.replicate
      (-(d.exponent + (Nat.toDigits 10 d.digits).length - 1) - 1).toNat '0' ++
        Nat.toDigits 10 d.digits) := by
    refine ⟨by simp [hDigits.1], fun c hc => ?_⟩
    rcases List.mem_append.mp hc with hc | hc
    · rw [List.eq_of_mem_replicate hc]
      rfl
    · exact hDigits.2 c hc
  have hNumber := number_positional negative (.inl rfl) hFraction
  have hSize : Nat.ofDigitChars 10 (['0'] ++ (List.replicate
      (-(d.exponent + (Nat.toDigits 10 d.digits).length - 1) - 1).toNat '0' ++
        Nat.toDigits 10 d.digits)) 0 = d.digits := by
    rw [Nat.ofDigitChars_append, Nat.ofDigitChars_append]
    simp [Nat.ofDigitChars_cons]
  have hExponent : (-((List.replicate
      (-(d.exponent + (Nat.toDigits 10 d.digits).length - 1) - 1).toNat '0' ++
        Nat.toDigits 10 d.digits).length : Int)) = d.exponent := by
    rw [List.length_append, List.length_replicate]
    omega
  rwa [hSize, hExponent] at hNumber

/-- From one on, the point stands within the digits or behind them; in the
second case zeros fill the gap and one zero follows the point. -/
theorem number_from_one (negative : Bool) {d : Decimal} (hd : d.digits ≠ 0) (lead : Nat)
    (hLead : d.exponent + (Nat.toDigits 10 d.digits).length - 1 = lead) :
    Number (sign negative ++ Text.ofChars ((Nat.toDigits 10 d.digits).take (lead + 1) ++
        List.replicate (lead + 1 - ((Nat.toDigits 10 d.digits).take (lead + 1)).length) '0' ++ '.' ::
          (if (Nat.toDigits 10 d.digits).drop (lead + 1) = [] then ['0']
            else (Nat.toDigits 10 d.digits).drop (lead + 1))))
      (.float (Binary64.ofDecimal negative d)) := by
  have hDigits := digits_toDigits d.digits
  have hHead := head?_toDigits hd
  have hValue := Nat.ofDigitChars_ten_toDigits (n := d.digits)
  generalize Nat.toDigits 10 d.digits = ds at *
  by_cases hShort : ds.length ≤ lead + 1
  · obtain ⟨gap, hGap⟩ : ∃ gap : Nat, d.exponent = gap := ⟨d.exponent.toNat, by omega⟩
    have hFill : lead + 1 - ds.length = gap := by omega
    rw [List.take_of_length_le hShort, List.drop_of_length_le hShort, if_pos rfl, hFill]
    have hWhole : Whole (ds ++ List.replicate gap '0') := by
      refine .inr ⟨⟨by simp [hDigits.1], fun c hc => ?_⟩, ?_⟩
      · rcases List.mem_append.mp hc with hc | hc
        · exact hDigits.2 c hc
        · rw [List.eq_of_mem_replicate hc]
          rfl
      · rwa [List.head?_append_of_ne_nil _ hDigits.1]
    have hZero : Digits ['0'] := ⟨by simp, by simp⟩
    have hNumber := number_positional negative hWhole hZero
    have hSize : Nat.ofDigitChars 10 (ds ++ List.replicate gap '0' ++ ['0']) 0 =
        d.digits * 10 ^ (gap + 1) := by
      rw [Nat.ofDigitChars_append, Nat.ofDigitChars_append, hValue,
        Nat.ofDigitChars_replicate_zero]
      simp [Nat.ofDigitChars_cons]
      ring
    have hExponent : (-(['0'].length : Int)) = d.exponent - (gap + 1 : Nat) := by
      rw [List.length_singleton]
      omega
    rw [hSize, hExponent, Binary64.ofDecimal_mul_pow] at hNumber
    exact hNumber
  · have hNone : lead + 1 - (ds.take (lead + 1)).length = 0 := by
      rw [List.length_take]
      omega
    have hRest : ds.drop (lead + 1) ≠ [] := by
      rw [Ne, List.drop_eq_nil_iff]
      omega
    rw [hNone, List.replicate_zero, List.append_nil, if_neg hRest]
    have hWhole : Whole (ds.take (lead + 1)) := by
      obtain ⟨c, cs, rfl⟩ := List.exists_cons_of_ne_nil hDigits.1
      exact .inr ⟨⟨by simp, fun c hc => hDigits.2 c (List.mem_of_mem_take hc)⟩, hHead⟩
    have hFraction : Digits (ds.drop (lead + 1)) :=
      ⟨hRest, fun c hc => hDigits.2 c (List.mem_of_mem_drop hc)⟩
    have hNumber := number_positional negative hWhole hFraction
    have hExponent : (-((ds.drop (lead + 1)).length : Int)) = d.exponent := by
      rw [List.length_drop]
      omega
    rwa [List.take_append_drop, hValue, hExponent] at hNumber

/-- However a decimal is laid out, it is a number of the grammar with the decimal's
float. -/
theorem number_layout (style : Binary64.Style) (d : Decimal) (negative : Bool) :
    Number (sign negative ++ Text.ofChars (Binary64.layout style d))
      (.float (Binary64.ofDecimal negative d)) := by
  by_cases hd : d.digits = 0
  · have hZero : Digits ['0'] := ⟨by simp, by simp⟩
    have hNumber := number_positional negative (.inl rfl) hZero
    simp only [Binary64.layout, if_pos hd]
    simpa [Binary64.ofDecimal, hd, Nat.ofDigitChars_cons] using hNumber
  · simp only [Binary64.layout, if_neg hd]
    split
    · split
      · next hLead => exact number_below_one negative hLead
      · next hLead =>
          exact number_from_one negative hd _ (Int.toNat_of_nonneg (Int.not_lt.mp hLead)).symm
    · have hDigits := digits_toDigits d.digits
      have hHead := head?_toDigits hd
      have hValue := Nat.ofDigitChars_ten_toDigits (n := d.digits)
      obtain ⟨first, more, hEq⟩ := List.exists_cons_of_ne_nil hDigits.1
      rw [hEq] at hDigits hHead hValue ⊢
      have hFirst : first ≠ '0' := fun h => hHead (by rw [h]; rfl)
      have hExponent :
          d.exponent + ((first :: more).length : Int) - 1 - more.length = d.exponent := by
        rw [List.length_cons]
        omega
      have hNumber := number_exponential negative hDigits hFirst
        (d.exponent + ((first :: more).length : Int) - 1) (style.exponentWidth -
          (Nat.toDigits 10 (d.exponent + ((first :: more).length : Int) - 1).natAbs).length)
      rw [hValue, hExponent] at hNumber
      cases more <;> exact hNumber

/-- A finite number is written as a number with a fraction or a power, and
what is written stands for it. -/
theorem number_write (style : Binary64.Style) (negative : Bool) (magnitude : Binary64.Magnitude) :
    Number ((Binary64.finite negative magnitude).write style)
      (.float (.finite negative magnitude)) := by
  have hNumber := number_layout style (Binary64.shortest magnitude) negative
  rw [Binary64.ofDecimal_shortest] at hNumber
  cases negative <;> exact hNumber

end Json

end DemurrageToken
