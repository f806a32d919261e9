import DemurrageToken.Proofs.JsonReading
import DemurrageToken.Proofs.JsonWriting
import Mathlib.Data.List.Sort

/-! JSON as ECMAScript's `JSON.stringify` writes it. Both writers agree on every
token; what they may disagree on is the order of the members, since a script
enumerates array indices before all other keys of an object. -/
namespace DemurrageToken.Json

open Grammar

/-! ### What a script writes -/

namespace Script

/-- The array index that a key is: the decimal form of a number below the
greatest length of an array. -/
def index? (key : Text) : Option Nat :=
  let n := Nat.ofDigitChars 10 (key.filterMap CodePoint.char?) 0
  if key = Text.ofNat n ∧ n < 2 ^ 32 - 1 then some n else none

/-- Members by the array indices that their keys are. -/
def IndexLe {α : Type} (m m' : Text × α) : Prop := (index? m.1).getD 0 ≤ (index? m'.1).getD 0

instance {α : Type} : DecidableRel (@IndexLe α) := fun m m' =>
  inferInstanceAs (Decidable ((index? m.1).getD 0 ≤ (index? m'.1).getD 0))

/-- A script enumerates the members of an object by their array indices, and
then the others in the order of insertion. -/
def enumerate {α : Type} (ms : List (Text × α)) : List (Text × α) :=
  (ms.filter fun m => (index? m.1).isSome).insertionSort IndexLe ++
    ms.filter fun m => (index? m.1).isNone

/-- The characters that a backslash and a letter stand for. -/
def shortEscapes : List (Nat × Char) :=
  [(0x08, 'b'), (0x09, 't'), (0x0A, 'n'), (0x0C, 'f'), (0x0D, 'r'), (0x22, '"'), (0x5C, '\\')]

def unicodeEscape (unit : Nat) : Text :=
  "\\u" ++ Text.ofChars [(unit / 0x1000).digitChar, (unit / 0x100 % 16).digitChar,
    (unit / 0x10 % 16).digitChar, (unit % 16).digitChar]

def escape (c : CodePoint) : Text :=
  match shortEscapes.lookup c.val with
  | some letter => [.scalar '\\', .scalar letter]
  | none => if c.val < 0x20 ∨ c.isSurrogate then unicodeEscape c.val else [c]

def quote (t : Text) : Text := .scalar '"' :: (t.flatMap escape ++ [.scalar '"'])

mutual

/-- The text of a value that has one in scripts without rounding: there a number
is exact up to `2 ^ 53 - 1`. Numbers with a fraction are left aside. -/
def text? : Json → Option Text
  | null => some "null"
  | bool b => some (if b then "true" else "false")
  | int n => if n.natAbs ≤ 2 ^ 53 - 1 then some (Text.ofInt n) else none
  | float _ => none
  | string t => some (quote t)
  | array xs => (elementTexts? xs).map fun ts => "[" ++ Text.join "," ts ++ "]"
  | object ms => (memberTexts? ms).map fun entries =>
      "\x7b" ++ Text.join "," ((enumerate entries).map fun m => quote m.1 ++ ":" ++ m.2) ++ "\x7d"

def elementTexts? : List Json → Option (List Text)
  | [] => some []
  | x :: xs => do return (← text? x) :: (← elementTexts? xs)

def memberTexts? : List (Text × Json) → Option (List (Text × Text))
  | [] => some []
  | (name, x) :: ms => do return (name, ← text? x) :: (← memberTexts? ms)

end

/-- A value that a script can build as it is: its integers are exact, and it has
no other numbers. -/
@[mk_iff]
structure Exact (v : Json) : Prop where
  integers : ∀ n, v = .int n → n.natAbs ≤ 2 ^ 53 - 1
  floats : ∀ x, v ≠ .float x
  texts : ∀ t ∈ v.texts, t.SurrogateFree
  names : ∀ ms, v = .object ms → (ms.map Prod.fst).Nodup

/-- In the order of a script, only smaller array indices stand before an array
index. -/
def Precedes (key key' : Text) : Prop :=
  ∀ n', index? key' = some n' → ∃ n, index? key = some n ∧ n < n'

instance : DecidableRel Precedes := fun key key' =>
  decidable_of_iff (∀ n' ∈ index? key', ∃ n ∈ index? key, n < n') Iff.rfl

/-- At every depth, the members of an object stand in the order of a script. -/
def InOrder (v : Json) : Prop :=
  Everywhere (fun w => ∀ ms, w = .object ms → (ms.map Prod.fst).Pairwise Precedes) v

/-! ### Strings -/

/-- Within ASCII the two escapes are compared by evaluation; beyond it neither
writer escapes anything but a surrogate. -/
theorem escape_eq {c : CodePoint} (hc : c.isSurrogate = false) :
    escape c = Json.escape false c := by
  by_cases hAscii : c.isAscii = true
  · exact CodePoint.of_forall_ascii (p := fun c => escape c = Json.escape false c)
      (by decide +kernel) hAscii
  · have hVal : 0x80 ≤ c.val := by simpa [CodePoint.isAscii] using hAscii
    have hShort : shortEscapes.lookup c.val = none := by
      rw [List.lookup_eq_none_iff]
      intro entry hEntry
      have hSmall : ∀ entry ∈ shortEscapes, entry.1 < 0x80 := by decide
      have := hSmall entry hEntry
      simp only [bne_iff_ne]
      omega
    have hOther : ∀ d : Char, d.toNat < 0x80 → c ≠ .scalar d := by
      rintro d hd rfl
      simp only [CodePoint.val] at hVal
      omega
    have hControl : ¬c.val < 0x20 := by omega
    simp only [escape, hShort, hControl, hc, Json.escape, hOther '"' (by decide),
      hOther '\\' (by decide), hOther '\n' (by decide), hOther '\r' (by decide),
      hOther '\t' (by decide), hOther '\x0c' (by decide), hOther '\x08' (by decide), if_false]
    simp

/-- Both writers quote a text without surrogates in the same way. -/
theorem quote_eq {t : Text} (ht : t.SurrogateFree) : quote t = writeString false t := by
  have hBody : t.flatMap escape = t.flatMap (Json.escape false) :=
    List.flatMap_congr fun c hc => escape_eq (ht c hc)
  rw [quote, writeString, hBody]

/-! ### The order of members -/

section

variable {α β : Type}

/-- A key that counts as an index is the decimal text of a number. -/
theorem index?_eq_some {key : Text} {n : Nat} (h : index? key = some n) : key = Text.ofNat n := by
  simp only [index?] at h
  split at h
  · next hKey =>
      cases h
      exact hKey.1
  · cases h

/-- A script puts members in order without losing any. -/
theorem enumerate_perm (ms : List (Text × α)) : (enumerate ms).Perm ms := by
  have hFilter := List.filter_append_perm (fun m => (index? m.1).isSome) ms
  refine ((List.perm_insertionSort _ _).append_right _).trans ?_
  simpa using hFilter

/-- Enumerating looks at keys only. -/
theorem enumerate_map (f : α → β) (ms : List (Text × α)) :
    enumerate (ms.map fun m => (m.1, f m.2)) = (enumerate ms).map fun m => (m.1, f m.2) := by
  have hSort := List.map_insertionSort (@IndexLe α) (@IndexLe β) (fun m => (m.1, f m.2))
    (ms.filter fun m => (index? m.1).isSome) fun _ _ _ _ => Iff.rfl
  rw [enumerate, enumerate, List.map_append, hSort, List.filter_map, List.filter_map]
  rfl

instance : Std.Total (@IndexLe α) := ⟨fun _ _ => Nat.le_total ..⟩

instance : IsTrans (Text × α) IndexLe := ⟨fun _ _ _ => Nat.le_trans⟩

theorem precedes_of_none {key key' : Text} (h : index? key' = none) : Precedes key key' := by
  intro n' hn'
  rw [h] at hn'
  cases hn'

/-- Two keys are not the same array index unless they are the same key. -/
theorem precedes_of_indexLe {m m' : Text × α} (h : IndexLe m m') (hNames : m.1 ≠ m'.1)
    (hIndex : (index? m.1).isSome = true) : Precedes m.1 m'.1 := by
  intro n' hn'
  obtain ⟨n, hn⟩ := Option.isSome_iff_exists.mp hIndex
  rw [IndexLe, hn, hn', Option.getD_some, Option.getD_some] at h
  refine ⟨n, hn, Nat.lt_of_le_of_ne h ?_⟩
  rintro rfl
  exact hNames ((index?_eq_some hn).trans (index?_eq_some hn').symm)

/-- In the order of a script each key precedes those after it. -/
theorem pairwise_enumerate {ms : List (Text × α)} (h : (ms.map Prod.fst).Nodup) :
    ((enumerate ms).map Prod.fst).Pairwise Precedes := by
  have hNames : ((enumerate ms).map Prod.fst).Nodup := ((enumerate_perm ms).map _).nodup_iff.mpr h
  rw [List.Nodup, List.pairwise_map, enumerate, List.pairwise_append] at hNames
  rw [List.pairwise_map, enumerate, List.pairwise_append]
  have hNone : ∀ m ∈ ms.filter (fun m => (index? m.1).isNone), index? m.1 = none := by
    intro m hm
    simpa using List.of_mem_filter hm
  refine ⟨?_, ?_, fun m _ m' hm' => precedes_of_none (hNone m' hm')⟩
  · refine ((List.pairwise_insertionSort IndexLe _).and hNames.1).imp_of_mem ?_
    rintro m m' hm - ⟨hLe, hNe⟩
    have hIndex := List.of_mem_filter ((List.mem_insertionSort _).mp hm)
    exact precedes_of_indexLe hLe hNe hIndex
  · refine hNames.2.1.imp_of_mem ?_
    rintro m m' - hm' -
    exact precedes_of_none (hNone m' hm')

/-- Members are enumerated as they stand if no array index is out of place. -/
theorem enumerate_eq_self {ms : List (Text × α)} (h : (ms.map Prod.fst).Pairwise Precedes) :
    enumerate ms = ms := by
  induction ms with
  | nil => rfl
  | cons m ms ih =>
      rw [List.map_cons, List.pairwise_cons, List.forall_mem_map] at h
      obtain ⟨hFirst, hRest⟩ := h
      cases hIndex : index? m.1 with
      | none =>
          -- Behind a key that is no array index there is none.
          have hNone : ∀ m' ∈ ms, index? m'.1 = none := by
            intro m' hm'
            rw [Option.eq_none_iff_forall_ne_some]
            intro n' hn'
            obtain ⟨n, hn, -⟩ := hFirst m' hm' n' hn'
            rw [hIndex] at hn
            cases hn
          have hSome : (m :: ms).filter (fun m => (index? m.1).isSome) = [] := by
            simpa [List.filter_eq_nil_iff, hIndex] using hNone
          have hAll : (m :: ms).filter (fun m => (index? m.1).isNone) = m :: ms := by
            simpa [List.filter_eq_self, hIndex] using hNone
          rw [enumerate, hSome, hAll]
          rfl
      | some n =>
          have hLeast : ∀ m' ∈ ms.filter (fun m => (index? m.1).isSome), IndexLe m m' := by
            intro m' hm'
            obtain ⟨hMem, hSome⟩ := List.mem_filter.mp hm'
            obtain ⟨n', hn'⟩ := Option.isSome_iff_exists.mp hSome
            obtain ⟨k, hk, hLt⟩ := hFirst m' hMem n' hn'
            rw [IndexLe, hk, hn']
            exact hLt.le
          have hTail := ih hRest
          rw [enumerate] at hTail ⊢
          rw [List.filter_cons_of_pos (by simp [hIndex]),
            List.filter_cons_of_neg (by simp [hIndex]),
            List.insertionSort_cons_of_forall_rel _ hLeast, List.cons_append, hTail]

/-! ### Values in the order of a script -/

mutual

/-- The value that a script has: the members of each object are enumerated. -/
def enumerated : Json → Json
  | null => null
  | bool b => bool b
  | int n => int n
  | float x => float x
  | string t => string t
  | array xs => array (enumeratedElements xs)
  | object ms => object (enumerate (enumeratedMembers ms))

def enumeratedElements : List Json → List Json
  | [] => []
  | x :: xs => enumerated x :: enumeratedElements xs

def enumeratedMembers : List (Text × Json) → List (Text × Json)
  | [] => []
  | (name, x) :: ms => (name, enumerated x) :: enumeratedMembers ms

end

theorem enumerated_array (xs : List Json) :
    enumerated (.array xs) = .array (xs.map enumerated) := by
  have hElements : enumeratedElements xs = xs.map enumerated := by
    induction xs with
    | nil => rfl
    | cons x xs ih => rw [enumeratedElements, ih, List.map_cons]
  rw [enumerated, hElements]

/-- A script puts the members of an object in order, and those inside them. -/
theorem enumerated_object (ms : List (Text × Json)) :
    enumerated (.object ms) = .object ((enumerate ms).map fun m => (m.1, enumerated m.2)) := by
  have hMembers : enumeratedMembers ms = ms.map fun m => (m.1, enumerated m.2) := by
    induction ms with
    | nil => rfl
    | cons m ms ih => rw [enumeratedMembers, ih, List.map_cons]
  rw [enumerated, hMembers, enumerate_map]

theorem map_eq_self_iff {f : α → α} {xs : List α} : xs.map f = xs ↔ ∀ x ∈ xs, f x = x := by
  have hIff : xs.map f = xs.map id ↔ ∀ x ∈ xs, f x = id x := List.map_inj_left
  rwa [List.map_id] at hIff

/-- A value is as a script has it just where all its members stand in order. -/
theorem enumerated_eq_self_iff {v : Json}
    (hv : Everywhere (fun w => ∀ ms, w = .object ms → (ms.map Prod.fst).Nodup) v) :
    enumerated v = v ↔ InOrder v := by
  induction hv with
  | @mk v hNames _ ih =>
      rw [InOrder, everywhere_iff]
      cases v with
      | array xs =>
          rw [enumerated_array, array.injEq, map_eq_self_iff]
          refine ⟨fun h => ⟨by simp, fun x hx => (ih x hx).mp (h x hx)⟩, fun h x hx => ?_⟩
          exact (ih x hx).mpr (h.2 x hx)
      | object ms =>
          rw [enumerated_object, object.injEq]
          constructor
          · intro h
            have hKeys : (enumerate ms).map Prod.fst = ms.map Prod.fst := by
              rw [← congrArg (List.map Prod.fst) h, List.map_map]
              rfl
            have hOrder : (ms.map Prod.fst).Pairwise Precedes :=
              hKeys ▸ pairwise_enumerate (hNames ms rfl)
            rw [enumerate_eq_self hOrder, map_eq_self_iff] at h
            refine ⟨fun _ hEq => object.inj hEq ▸ hOrder, fun w hw => ?_⟩
            obtain ⟨m, hm, rfl⟩ := List.mem_map.mp hw
            exact (ih _ hw).mp (congrArg Prod.snd (h m hm))
          · rintro ⟨hOrder, hParts⟩
            rw [enumerate_eq_self (hOrder ms rfl), map_eq_self_iff]
            intro m hm
            have hMem := List.mem_map_of_mem (f := Prod.snd) hm
            rw [(ih m.2 hMem).mpr (hParts m.2 hMem)]
      | _ => simp [enumerated, parts]

theorem Exact.plain {v : Json} (h : Exact v) : v.Plain where
  digits := by
    intro n hn
    have hSize : n.natAbs < 10 ^ 16 := by
      have hMost := h.integers n hn
      omega
    exact ((Nat.length_toDigits_le_iff (by decide) (by decide)).mpr hSize).trans (by decide)
  texts := h.texts
  names := h.names

theorem portable_enumerated {v : Json} (hv : v.Portable) : (enumerated v).Portable := by
  induction hv with
  | @mk v hPlain _ ih =>
      cases v with
      | null => exact .null
      | bool b => exact .bool b
      | int n => exact .int (hPlain.digits n rfl)
      | float x => exact .float x
      | string t => exact .string (hPlain.texts t (List.mem_singleton_self t))
      | array xs =>
          rw [enumerated_array]
          exact .array (List.forall_mem_map.mpr ih)
      | object ms =>
          have hPerm := enumerate_perm ms
          have hNames : (((enumerate ms).map fun m => (m.1, enumerated m.2)).map Prod.fst).Perm
              (ms.map Prod.fst) := by
            rw [List.map_map]
            exact hPerm.map Prod.fst
          rw [enumerated_object]
          refine .object (hNames.nodup_iff.mpr (hPlain.names ms rfl)) ?_ ?_
          · intro name hName
            exact hPlain.texts name (hNames.mem_iff.mp hName)
          · rw [List.map_map, List.forall_mem_map]
            intro m hm
            exact ih m.2 (List.mem_map_of_mem (hPerm.mem_iff.mp hm))

end

/-! ### Texts -/

theorem elementTexts?_eq {xs : List Json} {write : Json → Text}
    (h : ∀ x ∈ xs, text? x = some (write x)) : elementTexts? xs = some (xs.map write) := by
  induction xs with
  | nil => rfl
  | cons x xs ih =>
      rw [List.forall_mem_cons] at h
      rw [elementTexts?, h.1, ih h.2]
      rfl

theorem memberTexts?_eq {ms : List (Text × Json)} {write : Json → Text}
    (h : ∀ m ∈ ms, text? m.2 = some (write m.2)) :
    memberTexts? ms = some (ms.map fun m => (m.1, write m.2)) := by
  induction ms with
  | nil => rfl
  | cons m ms ih =>
      rw [List.forall_mem_cons] at h
      rw [memberTexts?, h.1, ih h.2]
      rfl

/-- Without an indent nothing but commas stands between the parts. -/
theorem bracket_canonical (level : Nat) (opening closing : Char) (ts : List Text) :
    bracket .canonical level opening closing ts =
      .scalar opening :: (Text.join "," ts ++ [.scalar closing]) := by
  cases ts with
  | nil => rfl
  | cons t ts => simp [bracket, Style.lineBreak, Style.canonical]

/-- A script writes the canonical text of the value that it has. -/
theorem text?_eq {v : Json} (hv : Everywhere Exact v) (level : Nat) :
    text? v = some (writeAt .canonical level (enumerated v)) := by
  induction hv generalizing level with
  | @mk v hExact _ ih =>
      cases v with
      | null => rfl
      | bool b => cases b <;> rfl
      | int n => exact if_pos (hExact.integers n rfl)
      | float x => exact (hExact.floats x rfl).elim
      | string t =>
          have hText := hExact.texts t (List.mem_singleton_self t)
          rw [text?, quote_eq hText]
          rfl
      | array xs =>
          have hElements := @elementTexts?_eq xs _ fun x hx => ih x hx (level + 1)
          rw [text?, hElements, enumerated_array, writeAt, writeElements_eq_map, bracket_canonical,
            List.map_map]
          rfl
      | object ms =>
          let write (x : Json) : Text := writeAt .canonical (level + 1) (enumerated x)
          have hMembers := @memberTexts?_eq ms write
            fun m hm => ih m.2 (List.mem_map_of_mem hm) (level + 1)
          have hTexts : (enumerate (ms.map fun m => (m.1, write m.2))).map
                (fun m => quote m.1 ++ Text.ofString ":" ++ m.2) =
              (enumerate ms).map fun m =>
                writeString false m.1 ++ Text.ofString ":" ++ write m.2 := by
            rw [enumerate_map, List.map_map]
            refine List.map_congr_left fun m hm => ?_
            have hMem := (enumerate_perm ms).mem_iff.mp hm
            rw [Function.comp_apply, quote_eq (hExact.texts m.1 (List.mem_map_of_mem hMem))]
          rw [text?, hMembers, Option.map_some, hTexts, enumerated_object, writeAt,
            writeMembers_eq_map, bracket_canonical, List.map_map]
          rfl

/-- Portable values with one canonical text are one value. -/
theorem canonical_injective {v w : Json} (hv : v.Portable) (hw : w.Portable)
    (h : v.canonical = w.canonical) : v = w := by
  have hRead := read_eq_ok_iff.mpr (document_write Style.regular_canonical hv)
  have hRead' := read_eq_ok_iff.mpr (document_write Style.regular_canonical hw)
  rw [← canonical] at hRead hRead'
  rw [h, hRead'] at hRead
  exact (Except.ok.inj hRead).symm

/-- A script has a text for the value, and that is the canonical one just where
no array index is out of place among the names of any object. -/
theorem canonical_eq_text_iff {v : Json} (hv : Everywhere Exact v) :
    ∃ t, text? v = some t ∧ (v.canonical = t ↔ InOrder v) := by
  have hNames := hv.mono fun _ hExact => hExact.names
  have hPortable : v.Portable := hv.mono fun _ hExact => hExact.plain
  refine ⟨_, text?_eq hv 0, ?_⟩
  rw [← enumerated_eq_self_iff hNames]
  constructor
  · intro h
    exact (canonical_injective hPortable (portable_enumerated hPortable) h).symm
  · intro h
    rw [h]
    rfl

/-- Array indices in front, in their order as numbers, and a control character. -/
theorem canonical_eq_text_indices :
    let v : Json := .object [("2", .array [.null]), ("10", .string "\x01é"), ("01", .int (-5))]
    Everywhere Exact v ∧ text? v = some v.canonical := by
  intro v
  have hNull : Everywhere (fun w => Exact w ∧ ∀ ms, w = .object ms →
      (ms.map Prod.fst).Pairwise Precedes) .null :=
    ⟨by simp [exact_iff, texts], by simp [parts]⟩
  have hBoth : Everywhere (fun w => Exact w ∧ ∀ ms, w = .object ms →
      (ms.map Prod.fst).Pairwise Precedes) v := by
    refine ⟨⟨⟨by simp [v], by simp [v], by decide, ?_⟩, ?_⟩, fun w hw => ?_⟩
    · rintro ms hMembers
      obtain rfl := object.inj hMembers
      decide
    · rintro ms hMembers
      obtain rfl := object.inj hMembers
      decide
    · simp only [v, parts, List.map_cons, List.map_nil, List.mem_cons, List.not_mem_nil,
        or_false] at hw
      rcases hw with rfl | rfl | rfl
      · refine ⟨by simp [exact_iff, texts], fun w hw => ?_⟩
        rw [List.mem_singleton.mp hw]
        exact hNull
      · exact ⟨⟨⟨by simp, by simp, by decide, by simp⟩, by simp⟩, by simp [parts]⟩
      · exact ⟨by simp [exact_iff, texts], by simp [parts]⟩
  have hv : Everywhere Exact v := hBoth.mono fun _ h => h.1
  obtain ⟨t, ht, hIff⟩ := canonical_eq_text_iff hv
  rw [hIff.mpr (hBoth.mono fun _ h => h.2)]
  exact ⟨hv, ht⟩

/-- The name `1` comes after `b`, where a script has it first. -/
theorem canonical_ne_text :
    let v : Json := .object [("b", .int 1), ("1", .int 2)]
    v.canonical = "\x7b\"b\":1,\"1\":2\x7d" ∧
      text? v = some (Text.ofString "\x7b\"1\":2,\"b\":1\x7d") ∧
      text? v ≠ some v.canonical := by
  decide +kernel

end Script

end DemurrageToken.Json
