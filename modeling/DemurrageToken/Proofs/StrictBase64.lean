import DemurrageToken.Proofs.Base64
import Mathlib.Algebra.Group.Nat.Defs

/-! Base64 without leniency. The strict reader takes groups of four characters of
the alphabet, pads the last group only, and leaves no bit unread; it accepts
exactly what is written. Neither it nor the form of padded text mentions the
writer. -/
namespace DemurrageToken.Base64

/-- The characters in the order of their values. -/
def alphabet : Text := "ABCDEFGHIJKLMNOPQRSTUVWXYZabcdefghijklmnopqrstuvwxyz0123456789+/"

/-- The value of a character: its place in the alphabet. -/
def value? (c : CodePoint) : Option Nat := alphabet.idxOf? c

/-- Strict reading. Of a group that is padded, the bits that fill no byte have to
be zero, and nothing may follow it. -/
def decodeStrict : Text → Option Bytes
  | [] => some []
  | a :: b :: c :: d :: rest => do
    let twelve := (← value? a) * 64 + (← value? b)
    if c = .scalar '=' ∧ d = .scalar '=' ∧ rest = [] then
      if twelve % 16 = 0 then some [UInt8.ofNat (twelve / 16)] else none
    else
      let eighteen := twelve * 64 + (← value? c)
      if d = .scalar '=' ∧ rest = [] then
        if eighteen % 4 = 0 then
          some [UInt8.ofNat (eighteen / 1024), UInt8.ofNat (eighteen / 4 % 256)]
        else none
      else
        let group := eighteen * 64 + (← value? d)
        let bytes ← decodeStrict rest
        some (UInt8.ofNat (group / 65536) :: UInt8.ofNat (group / 256 % 256) ::
          UInt8.ofNat (group % 256) :: bytes)
  | _ => none

/-- The form of base64 text: full groups of four, characters of the alphabet, at
most two paddings at the very end, and zeros for the two bits that each padding
leaves over. -/
structure Padded (t : Text) : Prop where
  groups : t.length % 4 = 0
  form : ∃ (body : Text) (pads : Nat), t = body ++ List.replicate pads (.scalar '=') ∧ pads ≤ 2 ∧
    (∀ c ∈ body, c ∈ alphabet) ∧
    ∀ c n, body.getLast? = some c → value? c = some n → n % 4 ^ pads = 0

/-! ### The alphabet -/

/-- A sextet is read back from its digit. -/
@[simp] theorem value?_digit (s : Sextet) : value? (digit s) = some s.val := by
  revert s
  decide

theorem digit_mem_alphabet (s : Sextet) : digit s ∈ alphabet := by
  revert s
  decide +kernel

/-- The characters with a value are the digits of the sextets, one for each. -/
theorem value?_eq_some_iff {c : CodePoint} {n : Nat} :
    value? c = some n ↔ ∃ s : Sextet, s.val = n ∧ digit s = c := by
  constructor
  · intro h
    obtain ⟨hLength, hChar, -⟩ := List.findIdx?_eq_some_iff_getElem.mp h
    have hDigits : ∀ s : Sextet, alphabet[s.val]? = some (digit s) := by decide +kernel
    have hDigit := hDigits ⟨n, hLength⟩
    rw [List.getElem?_eq_getElem hLength, Option.some_inj, eq_of_beq hChar] at hDigit
    exact ⟨⟨n, hLength⟩, rfl, hDigit.symm⟩
  · rintro ⟨s, rfl, rfl⟩
    exact value?_digit s

/-! ### Groups -/

/-- Only the last six bits of a number matter to its digit. -/
theorem digit_ofNat {n : Nat} {s : Sextet} (h : n % 64 = s.val) :
    digit (Fin.ofNat 64 n) = digit s :=
  congrArg digit (Fin.ext h)

section

variable (a b c d : Sextet)

/-- Three bytes are written as the four sextets that their bits make up, and the rest
is written behind them. -/
theorem encode_group (bytes : Bytes) :
    let group := ((a.val * 64 + b.val) * 64 + c.val) * 64 + d.val
    encode (UInt8.ofNat (group / 65536) :: UInt8.ofNat (group / 256 % 256) ::
      UInt8.ofNat (group % 256) :: bytes) = digit a :: digit b :: digit c :: digit d ::
        encode bytes := by
  intro group
  simp only [encode, UInt8.toNat_ofNat']
  rw [@digit_ofNat _ a (by omega), @digit_ofNat _ b (by omega), @digit_ofNat _ c (by omega),
    @digit_ofNat _ d (by omega)]

/-- Two bytes at the end fill three sextets, of which the last has two bits to spare,
both zero. -/
theorem encode_two (h : ((a.val * 64 + b.val) * 64 + c.val) % 4 = 0) :
    let eighteen := (a.val * 64 + b.val) * 64 + c.val
    encode [UInt8.ofNat (eighteen / 1024), UInt8.ofNat (eighteen / 4 % 256)] =
      [digit a, digit b, digit c, .scalar '='] := by
  intro eighteen
  simp only [encode, UInt8.toNat_ofNat']
  rw [@digit_ofNat _ a (by omega), @digit_ofNat _ b (by omega), @digit_ofNat _ c (by omega)]

/-- One byte at the end fills two sextets, of which the last has four bits to spare,
all zero. -/
theorem encode_one (h : (a.val * 64 + b.val) % 16 = 0) :
    encode [UInt8.ofNat ((a.val * 64 + b.val) / 16)] =
      [digit a, digit b, .scalar '=', .scalar '='] := by
  simp only [encode, UInt8.toNat_ofNat']
  rw [@digit_ofNat _ a (by omega), @digit_ofNat _ b (by omega)]

end

/-! ### Reading -/

/-- The strict reader accepts nothing but what the writer would have written. -/
theorem eq_encode_of_decodeStrict {t : Text} {bytes : Bytes} (h : decodeStrict t = some bytes) :
    t = encode bytes := by
  induction t using decodeStrict.induct generalizing bytes with
  | case1 =>
      cases h
      rfl
  | case2 a b c d rest ih =>
      rw [decodeStrict] at h
      obtain ⟨m, hm, hFirst⟩ := Option.bind_eq_some_iff.mp h
      obtain ⟨n, hn, hSecond⟩ := Option.bind_eq_some_iff.mp hFirst
      clear h hFirst
      obtain ⟨s, rfl, rfl⟩ := value?_eq_some_iff.mp hm
      obtain ⟨u, rfl, rfl⟩ := value?_eq_some_iff.mp hn
      by_cases hPads : c = .scalar '=' ∧ d = .scalar '=' ∧ rest = []
      · rw [if_pos hPads, Option.ite_none_right_eq_some] at hSecond
        obtain ⟨hBits, hBytes⟩ := hSecond
        obtain ⟨rfl, rfl, rfl⟩ := hPads
        rw [← Option.some.inj hBytes, encode_one s u hBits]
      rw [if_neg hPads] at hSecond
      obtain ⟨k, hk, hThird⟩ := Option.bind_eq_some_iff.mp hSecond
      clear hSecond hPads
      obtain ⟨w, rfl, rfl⟩ := value?_eq_some_iff.mp hk
      by_cases hPad : d = .scalar '=' ∧ rest = []
      · rw [if_pos hPad, Option.ite_none_right_eq_some] at hThird
        obtain ⟨hBits, hBytes⟩ := hThird
        obtain ⟨rfl, rfl⟩ := hPad
        rw [← Option.some.inj hBytes, encode_two s u w hBits]
      rw [if_neg hPad] at hThird
      obtain ⟨l, hl, hFourth⟩ := Option.bind_eq_some_iff.mp hThird
      clear hThird hPad
      obtain ⟨x, rfl, rfl⟩ := value?_eq_some_iff.mp hl
      obtain ⟨more, hMore, hBytes⟩ := Option.bind_eq_some_iff.mp hFourth
      rw [← Option.some.inj hBytes, encode_group s u w x, ← ih hMore]
  | case3 t hNil hGroup =>
      rw [decodeStrict] at h
      · cases h
      · exact hNil
      · exact hGroup

private theorem ofNat_toNat_eq {b : UInt8} {n : Nat} (h : n = b.toNat) : UInt8.ofNat n = b := by
  rw [h, UInt8.ofNat_toNat]

/-- The strict reader gives back the bytes that were written. -/
theorem decodeStrict_encode (bytes : Bytes) : decodeStrict (encode bytes) = some bytes := by
  fun_induction encode bytes with
  | case1 => rfl
  | case2 a =>
      have ha := a.toNat_lt
      simp only [decodeStrict, value?_digit, Option.bind_eq_bind, Option.bind_some, true_and,
        if_true, Fin.ofNat]
      rw [if_pos (by omega), ofNat_toNat_eq (b := a) (by omega)]
  | case3 a b =>
      have ha := a.toNat_lt
      have hb := b.toNat_lt
      simp only [decodeStrict, value?_digit, Option.bind_eq_bind, Option.bind_some, digit_ne_pad,
        false_and, if_false, true_and, if_true, Fin.ofNat]
      rw [if_pos (by omega), ofNat_toNat_eq (b := a) (by omega), ofNat_toNat_eq (b := b) (by omega)]
  | case4 a b c rest ih =>
      have ha := a.toNat_lt
      have hb := b.toNat_lt
      have hc := c.toNat_lt
      simp only [decodeStrict, value?_digit, Option.bind_eq_bind, Option.bind_some, digit_ne_pad,
        false_and, if_false, ih, Fin.ofNat]
      rw [ofNat_toNat_eq (b := a) (by omega), ofNat_toNat_eq (b := b) (by omega),
        ofNat_toNat_eq (b := c) (by omega)]

/-- Strict reading accepts exactly what is written. -/
theorem decodeStrict_eq_some_iff {t : Text} {bytes : Bytes} :
    decodeStrict t = some bytes ↔ t = encode bytes :=
  ⟨eq_encode_of_decodeStrict, fun h => h ▸ decodeStrict_encode bytes⟩

/-! ### The form -/

/-- A full group may stand in front of any padded text. -/
theorem Padded.cons_group {t : Text} (h : Padded t) (a b c d : Sextet) :
    Padded (digit a :: digit b :: digit c :: digit d :: t) := by
  obtain ⟨hGroups, body, pads, rfl, hPads, hBody, hBits⟩ := h
  refine ⟨by simp only [List.length_cons] at hGroups ⊢; omega,
    digit a :: digit b :: digit c :: digit d :: body, pads, rfl, hPads, ?_, ?_⟩
  · simp only [List.forall_mem_cons, digit_mem_alphabet, true_and]
    exact hBody
  intro last n hLast hValue
  cases body with
  | nil =>
      -- Two paddings at most are no group, so there is none.
      obtain rfl : pads = 0 := by
        rw [List.nil_append, List.length_replicate] at hGroups
        omega
      exact Nat.mod_one n
  | cons e body => exact hBits last n (by simpa using hLast) hValue

/-- The last group, of some digits and the paddings that complete it. -/
theorem Padded.of_group (sextets : List Sextet) (last : Sextet) {pads : Nat} (hPads : pads ≤ 2)
    (hGroup : (sextets.length + (pads + 1)) % 4 = 0) (hBits : last.val % 4 ^ pads = 0) :
    Padded ((sextets ++ [last]).map digit ++ List.replicate pads (.scalar '=')) := by
  refine ⟨by simpa using hGroup, _, pads, rfl, hPads, ?_, ?_⟩
  · intro c hc
    obtain ⟨s, -, rfl⟩ := List.mem_map.mp hc
    exact digit_mem_alphabet s
  · intro c n hLast hValue
    obtain rfl : digit last = c := by simpa using hLast
    rw [value?_digit, Option.some.injEq] at hValue
    rw [← hValue, hBits]

/-- What is written is padded: full groups, and at the end of them one with one or
two marks, or none. -/
theorem padded_encode (bytes : Bytes) : Padded (encode bytes) := by
  fun_induction encode bytes with
  | case1 => exact ⟨rfl, [], 0, rfl, by decide, by simp, by simp⟩
  | case2 a =>
      have hBits : (Fin.ofNat 64 (a.toNat % 4 * 16)).val % 4 ^ 2 = 0 := by
        simp only [Fin.ofNat]
        omega
      exact Padded.of_group [Fin.ofNat 64 (a.toNat / 4)] _ (by decide) (by simp) hBits
  | case3 a b =>
      have hBits : (Fin.ofNat 64 (b.toNat % 16 * 4)).val % 4 ^ 1 = 0 := by
        simp only [Fin.ofNat]
        omega
      exact Padded.of_group
        [Fin.ofNat 64 (a.toNat / 4), Fin.ofNat 64 (a.toNat % 4 * 16 + b.toNat / 16)] _ (by decide)
        (by simp) hBits
  | case4 a b c rest ih => exact ih.cons_group ..

end DemurrageToken.Base64
