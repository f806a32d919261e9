import DemurrageToken.Json.Numerals
import DemurrageToken.Proofs.Utf8

/-! The values inside a value, and what holds of all of them. -/
namespace DemurrageToken.Json

/-- The values directly inside a value. -/
def parts : Json → List Json
  | array xs => xs
  | object ms => ms.map Prod.snd
  | _ => []

/-- The texts that stand in a value itself: a string, or the names of members. -/
def texts : Json → List Text
  | string t => [t]
  | object ms => ms.map Prod.fst
  | _ => []

/-- A property of a value and of every value inside it. -/
inductive Everywhere (p : Json → Prop) : Json → Prop where
  | mk {v : Json} (here : p v) (inside : ∀ w ∈ v.parts, Everywhere p w) : Everywhere p v

/-- A property holds everywhere in a value if it holds of the value and everywhere
in its parts. -/
theorem everywhere_iff {p : Json → Prop} {v : Json} :
    Everywhere p v ↔ p v ∧ ∀ w ∈ v.parts, Everywhere p w :=
  ⟨fun ⟨here, inside⟩ => ⟨here, inside⟩, fun ⟨here, inside⟩ => ⟨here, inside⟩⟩

/-- What holds everywhere may be weakened. -/
theorem Everywhere.mono {p q : Json → Prop} (h : ∀ v, p v → q v) {v : Json}
    (hv : Everywhere p v) : Everywhere q v := by
  induction hv with
  | mk here _ ih => exact ⟨h _ here, ih⟩

/-- The parts of a value are smaller than the value. -/
theorem sizeOf_lt_of_mem_parts {v w : Json} (h : w ∈ v.parts) : sizeOf w < sizeOf v := by
  cases v with
  | array xs =>
      have hSize := List.sizeOf_lt_of_mem (show w ∈ xs from h)
      rw [array.sizeOf_spec]
      omega
  | object ms =>
      obtain ⟨m, hm, rfl⟩ := List.mem_map.mp h
      have hSize := List.sizeOf_lt_of_mem hm
      rw [object.sizeOf_spec]
      cases m
      simp only [Prod.mk.sizeOf_spec] at hSize ⊢
      omega
  | _ => cases h

/-- What passes from the parts of a value to the value holds of every value. -/
@[elab_as_elim]
theorem partsInduction {p : Json → Prop} (step : ∀ v, (∀ w ∈ v.parts, p w) → p v) (v : Json) :
    p v :=
  step v fun w _ => partsInduction step w
termination_by sizeOf v
decreasing_by exact sizeOf_lt_of_mem_parts ‹_›

/-- No string and no name at any depth holds a surrogate. -/
def SurrogateFree (v : Json) : Prop := Everywhere (fun w => ∀ t ∈ w.texts, t.SurrogateFree) v

/-- A value is free of surrogates if its own texts and its parts are. -/
theorem surrogateFree_iff {v : Json} :
    v.SurrogateFree ↔ (∀ t ∈ v.texts, t.SurrogateFree) ∧ ∀ w ∈ v.parts, w.SurrogateFree :=
  everywhere_iff

/-- Every integer at any depth has few enough digits to be written. -/
def HasNumerals (v : Json) : Prop :=
  Everywhere (fun w => ∀ n, w = .int n →
    (Nat.toDigits 10 n.natAbs).length ≤ Text.integerDigitLimit) v

/-- The integers of a value have numerals if the value itself, where it is an
integer, has one and its parts have theirs. -/
theorem hasNumerals_iff {v : Json} :
    v.HasNumerals ↔ (∀ n, v = .int n →
      (Nat.toDigits 10 n.natAbs).length ≤ Text.integerDigitLimit) ∧
        ∀ w ∈ v.parts, w.HasNumerals :=
  everywhere_iff

/-- The check of a list of values is the check of each. -/
theorem elementsHaveNumerals_iff {xs : List Json} :
    elementsHaveNumerals xs = true ↔ ∀ x ∈ xs, x.hasNumerals = true := by
  induction xs with
  | nil => simp [elementsHaveNumerals]
  | cons x xs ih => simp [elementsHaveNumerals, ih]

/-- The check of members looks at their values only: names are no integers. -/
theorem membersHaveNumerals_iff {ms : List (Text × Json)} :
    membersHaveNumerals ms = true ↔ ∀ x ∈ ms.map Prod.snd, x.hasNumerals = true := by
  induction ms with
  | nil => simp [membersHaveNumerals]
  | cons m ms ih =>
      obtain ⟨name, x⟩ := m
      simp [membersHaveNumerals, ih]

/-- The check in front of the writers looks at the value and at its parts. -/
theorem hasNumerals_eq_true_iff_parts (v : Json) :
    v.hasNumerals = true ↔ (∀ n, v = .int n →
      (Nat.toDigits 10 n.natAbs).length ≤ Text.integerDigitLimit) ∧
        ∀ w ∈ v.parts, w.hasNumerals = true := by
  cases v with
  | int n => simp [hasNumerals, parts, Text.hasNumeral]
  | array xs => simp [hasNumerals, parts, elementsHaveNumerals_iff]
  | object ms => rw [hasNumerals, membersHaveNumerals_iff]; simp [parts]
  | _ => simp [hasNumerals, parts]

/-- The check in front of the writers finds every integer that is too long. -/
theorem hasNumerals_eq_true_iff (v : Json) : v.hasNumerals = true ↔ v.HasNumerals := by
  induction v using partsInduction with
  | step v ih =>
      rw [hasNumerals_eq_true_iff_parts, hasNumerals_iff]
      exact and_congr_right fun _ => forall₂_congr ih

/-- What a value needs so that its own tokens can be written and read: integers
of a bounded number of digits, no surrogates, and names that differ. Its parts
are left aside. -/
structure Plain (v : Json) : Prop where
  digits : ∀ n, v = .int n → (Nat.toDigits 10 n.natAbs).length ≤ Text.integerDigitLimit
  texts : ∀ t ∈ v.texts, t.SurrogateFree
  names : ∀ ms, v = .object ms → (ms.map Prod.fst).Nodup

/-- Values that pass through JSON text unchanged. -/
def Portable (v : Json) : Prop := Everywhere Plain v

/-- What passes through JSON text can be written. -/
theorem Portable.hasNumerals {v : Json} (hv : v.Portable) : v.HasNumerals :=
  hv.mono fun _ hPlain => hPlain.digits

/-- What passes through JSON text can be encoded. -/
theorem Portable.surrogateFree {v : Json} (hv : v.Portable) : v.SurrogateFree :=
  hv.mono fun _ hPlain => hPlain.texts

namespace Portable

/-! One way to a portable value for each kind of value. -/

theorem null : Portable null :=
  ⟨⟨by simp, by simp [texts], by simp⟩, by simp [parts]⟩

theorem bool (b : Bool) : (bool b).Portable :=
  ⟨⟨by simp, by simp [texts], by simp⟩, by simp [parts]⟩

/-- An integer needs a bound on its digits, and nothing else. -/
theorem int {n : Int} (h : (Nat.toDigits 10 n.natAbs).length ≤ Text.integerDigitLimit) :
    (int n).Portable :=
  ⟨⟨by simpa using h, by simp [texts], by simp⟩, by simp [parts]⟩

/-- A float asks nothing, not even to be finite. -/
theorem float (x : Binary64) : (float x).Portable :=
  ⟨⟨by simp, by simp [texts], by simp⟩, by simp [parts]⟩

/-- A string needs to be free of surrogates, and nothing else. -/
theorem string {t : Text} (h : t.SurrogateFree) : (string t).Portable :=
  ⟨⟨by simp, by simpa [texts] using h, by simp⟩, by simp [parts]⟩

/-- An array asks nothing beyond its elements. -/
theorem array {xs : List Json} (h : ∀ x ∈ xs, x.Portable) : (array xs).Portable :=
  ⟨⟨by simp, by simp [texts], by simp⟩, h⟩

/-- An object asks that its names differ and are free of surrogates. -/
theorem object {ms : List (Text × Json)} (hNames : (ms.map Prod.fst).Nodup)
    (hTexts : ∀ name ∈ ms.map Prod.fst, name.SurrogateFree)
    (h : ∀ x ∈ ms.map Prod.snd, x.Portable) : (object ms).Portable :=
  ⟨⟨by simp, hTexts, by simpa using hNames⟩, h⟩

end Portable

end DemurrageToken.Json
