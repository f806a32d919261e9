import DemurrageToken.Proofs.Integers
import DemurrageToken.Proofs.JsonReading
import DemurrageToken.Proofs.JsonWriting
import DemurrageToken.Proofs.WireForms

/-! JSON in indented form. What is read is well formed, so that it can be written
again. In the indented form each item has lines of its own, and no character of
a string is taken for a part of the layout. -/
namespace DemurrageToken

/-- A text without control characters as JSON has them: those below the space. -/
def Text.ControlFree (t : Text) : Prop := ∀ c ∈ t, 0x20 ≤ c.val

instance (t : Text) : Decidable t.ControlFree :=
  inferInstanceAs (Decidable (∀ c ∈ t, 0x20 ≤ c.val))

namespace Text.ControlFree

theorem cons {c : CodePoint} {t : Text} (hc : 0x20 ≤ c.val) (ht : ControlFree t) :
    ControlFree (c :: t) :=
  List.forall_mem_cons.mpr ⟨hc, ht⟩

theorem append {t u : Text} (ht : t.ControlFree) (hu : u.ControlFree) : (t ++ u).ControlFree :=
  List.forall_mem_append.mpr ⟨ht, hu⟩

theorem digits {ds : List Char} (h : ∀ d ∈ ds, d.isDigit = true) : (ofChars ds).ControlFree := by
  intro c hc
  obtain ⟨d, hd, rfl⟩ := List.mem_map.mp hc
  exact Nat.le_trans (by decide) (digit_bounds (h d hd)).1

end Text.ControlFree

namespace Json

open Grammar

/-! ### What is read -/

namespace Grammar

/-- The digits in front of a point are digits. -/
theorem Whole.isDigit {whole : List Char} (h : Whole whole) : ∀ d ∈ whole, d.isDigit = true := by
  rcases h with rfl | ⟨hDigits, -⟩
  · intro d hd
    rw [List.mem_singleton.mp hd]
    rfl
  · exact hDigits.2

/-- A number that was read in few enough digits can be written in as few. -/
theorem Whole.length_toDigits {whole : List Char} (h : Whole whole)
    (hLimit : whole.length ≤ Text.integerDigitLimit) (negative : Bool) :
    (Nat.toDigits 10 (signed negative (Nat.ofDigitChars 10 whole 0)).natAbs).length ≤
      Text.integerDigitLimit := by
  have hNonempty : 0 < whole.length := by
    rcases h with rfl | ⟨hDigits, -⟩
    · decide
    · exact List.length_pos_iff.mpr hDigits.1
  have hSize : (signed negative (Nat.ofDigitChars 10 whole 0)).natAbs =
      Nat.ofDigitChars 10 whole 0 := by
    cases negative with
    | true => exact Int.natAbs_neg _
    | false => rfl
  rw [hSize]
  exact ((Nat.length_toDigits_le_iff (by decide) hNonempty).mpr
    (Text.ofDigitChars_lt h.isDigit)).trans hLimit

/-- Every item of a series has a text. -/
theorem Series.exists_of_mem {α : Type} {Item : Text → α → Prop} {t : Text} {xs : List α}
    (h : Series Item t xs) {x : α} (hx : x ∈ xs) : ∃ u, Item u x := by
  induction h with
  | last item => exact ⟨_, List.mem_singleton.mp hx ▸ item⟩
  | more item _ _ _ ih =>
      rcases List.mem_cons.mp hx with rfl | hx
      · exact ⟨_, item⟩
      · exact ih hx

/-- A member of a merged object is one of the members that were read. -/
theorem Merged.mem_of_mem {ms table : List (Text × Json)} (h : Merged ms table)
    {m : Text × Json} (hm : m ∈ table) : m ∈ ms := by
  have hNodup : (table.map Prod.fst).Nodup := by
    rw [merged_iff.mp h]
    exact Entries.nodup_names_ofList ms
  have hLookup := (h.values m.1).symm.trans (Entries.lookup_of_mem hNodup hm)
  exact List.mem_reverse.mp (Entries.mem_of_lookup hLookup)

/-- A value that is read has a bounded number of digits in each integer, and no
object in it repeats a name. -/
theorem Value.wellFormed {t : Text} {v : Json} (h : Value t v) : v.WellFormed := by
  induction v using partsInduction generalizing t with
  | step v ih =>
      refine .mk ?_ fun w hw => ?_
      · refine ⟨?_, ?_⟩
        · rintro n rfl
          cases h with
          | word hWord => cases hWord
          | number hNumber =>
              cases hNumber with
              | integer hWhole hLimit => exact hWhole.length_toDigits hLimit _
        · rintro ms rfl
          cases h with
          | word hWord => cases hWord
          | number hNumber => cases hNumber
          | emptyObject => exact List.nodup_nil
          | object _ _ hMerged =>
              rw [merged_iff.mp hMerged]
              exact Entries.nodup_names_ofList _
      · have hPart : ∃ u, Value u w := by
          cases h with
          | word hWord => cases hWord <;> cases hw
          | number hNumber => cases hNumber <;> cases hw
          | string => cases hw
          | emptyArray => cases hw
          | array _ hItems => exact hItems.exists_of_mem hw
          | emptyObject => cases hw
          | object _ hMembers hMerged =>
              obtain ⟨m, hm, rfl⟩ := List.mem_map.mp hw
              obtain ⟨u, hMember⟩ := hMembers.exists_of_mem (hMerged.mem_of_mem hm)
              cases hMember with
              | mk _ _ _ hItem => exact ⟨_, hItem⟩
        obtain ⟨u, hu⟩ := hPart
        exact ih w hw hu

theorem Document.wellFormed {t : Text} {v : Json} (h : Document t v) : v.WellFormed := by
  cases h with
  | mk _ hValue _ => exact hValue.wellFormed

end Grammar

theorem WellFormed.of_lookup {ms : Entries Json} {name : Text} {v : Json}
    (h : (object ms).WellFormed) (hLookup : ms.lookup name = some v) : v.WellFormed := by
  exact (everywhere_iff.mp h).2 v (List.mem_map_of_mem (Entries.mem_of_lookup hLookup))

/-! ### Scalars -/

/-- A value with no values inside. -/
def IsScalar : Json → Prop
  | array _ | object _ => False
  | _ => True

namespace Grammar

/-- A hexadecimal digit is no control character. -/
theorem HexDigit.control {c : CodePoint} {n : Nat} (h : HexDigit c n) : 0x20 ≤ c.val := by
  have hAll : ∀ k < 16, 0x20 ≤ (CodePoint.scalar k.digitChar).val ∧
      0x20 ≤ (CodePoint.scalar k.digitChar.toUpper).val := by
    decide
  obtain ⟨hn, rfl | rfl⟩ := h
  · exact (hAll n hn).1
  · exact (hAll n hn).2

/-- A string is spelled without control characters, which have to be escaped. -/
theorem Spelling.controlFree {t : Text} {ps : List Piece} (h : Spelling t ps) : t.ControlFree := by
  have hBackslash : 0x20 ≤ (CodePoint.scalar '\\').val := by decide
  induction h with
  | nil => exact List.forall_mem_nil _
  | plain hControl _ _ _ ih => exact .cons hControl ih
  | short hShort _ ih =>
      have hLetters : ∀ entry ∈ shortEscapes, 0x20 ≤ (CodePoint.scalar entry.1).val := by decide
      exact .cons hBackslash (.cons (hLetters _ hShort) ih)
  | unit h₁ h₂ h₃ h₄ _ ih =>
      exact .cons hBackslash (.cons (by decide) (.cons h₁.control (.cons h₂.control
        (.cons h₃.control (.cons h₄.control ih)))))

/-- A number is written without control characters. -/
theorem Number.controlFree {t : Text} {v : Json} (h : Number t v) : t.ControlFree := by
  have hSign : ∀ negative, (sign negative).ControlFree := by decide
  cases h with
  | integer hWhole _ => exact (hSign _).append (.digits hWhole.isDigit)
  | @float negative whole fraction f p power? hWhole hFraction hPower _ =>
      have hf : f.ControlFree := by
        cases hFraction with
        | absent => exact List.forall_mem_nil _
        | digits hDigits => exact .cons (by decide) (.digits hDigits.2)
      have hp : p.ControlFree := by
        cases hPower with
        | absent => exact List.forall_mem_nil _
        | @digits mark s negative ds hMark hPowerSign hDigits =>
            have hs : s.ControlFree := by
              cases hPowerSign <;> decide
            have hMarkFree : 0x20 ≤ (CodePoint.scalar mark).val := by
              rcases hMark with rfl | rfl <;> decide
            exact .cons hMarkFree (hs.append (.digits hDigits.2))
      exact (((hSign _).append (.digits hWhole.isDigit)).append hf).append hp

end Grammar

theorem controlFree_unicodeEscape {n : Nat} (h : n < 0x10000) : (unicodeEscape n).ControlFree := by
  have hSpelling := spelling_unicodeEscape h .nil
  rw [List.append_nil] at hSpelling
  exact hSpelling.controlFree

/-- Control characters do not stand for themselves in strings. -/
theorem controlFree_escape (ascii : Bool) (c : CodePoint) : (escape ascii c).ControlFree := by
  have hMax := c.val_le
  rcases escape_cases ascii c with ⟨letter, meaning, hShort, -, hEq⟩ |
    ⟨hControl, -, hQuote, hBackslash, hEq⟩ | ⟨hVal, hEq⟩ | ⟨hVal, hEq⟩
  · exact hEq ▸ (Spelling.short hShort .nil).controlFree
  · exact hEq ▸ (Spelling.plain hControl hQuote hBackslash .nil).controlFree
  · exact hEq ▸ controlFree_unicodeEscape hVal
  · exact hEq ▸ (controlFree_unicodeEscape (by omega)).append
      (controlFree_unicodeEscape (by omega))

/-- A string is written without control characters, whatever it holds. -/
theorem controlFree_writeString (ascii : Bool) (t : Text) : (writeString ascii t).ControlFree := by
  have hQuote : Text.ControlFree [.scalar '"'] := by decide
  have hBody : Text.ControlFree (t.flatMap (escape ascii)) := by
    intro c hc
    obtain ⟨d, -, hMem⟩ := List.mem_flatMap.mp hc
    exact controlFree_escape ascii d c hMem
  exact hQuote.append (hBody.append hQuote)

theorem controlFree_ofInt (n : Int) : (Text.ofInt n).ControlFree := by
  cases n with
  | ofNat n => exact .digits (digits_toDigits n).2
  | negSucc n => exact .cons (by decide) (.digits (digits_toDigits (n + 1)).2)

/-- A scalar has one line, at every level the same. -/
theorem writeAt_of_isScalar (style : Style) (level : Nat) {v : Json} (hv : v.IsScalar) :
    writeAt style level v = v.write style ∧ (v.write style).ControlFree := by
  cases v with
  | null => exact ⟨rfl, by rw [write, writeAt]; decide⟩
  | bool b => cases b <;> exact ⟨rfl, by rw [write, writeAt]; decide⟩
  | int n => exact ⟨rfl, controlFree_ofInt n⟩
  | float x =>
      refine ⟨rfl, ?_⟩
      cases x with
      | nan => exact (by decide : Text.ControlFree "NaN")
      | infinite negative =>
          have hInfinity : ∀ negative,
              ((Binary64.infinite negative).write numberStyle).ControlFree := by
            decide
          exact hInfinity negative
      | finite negative magnitude => exact (number_write numberStyle negative magnitude).controlFree
  | string t => exact ⟨rfl, controlFree_writeString _ t⟩
  | array | object => exact hv.elim

theorem Style.regular_indented : Style.indented.Regular where
  comma := ⟨[], [], by simp [Blank], by simp [Blank], rfl⟩
  colon := ⟨[], " ", by simp [Blank], by rw [Blank]; decide, rfl⟩

/-! ### Layout -/

/-- A text moved to the right by two places, all lines but the first. -/
def shift (t : Text) : Text :=
  t.flatMap fun c => if c = .scalar '\n' then "\n  " else [c]

/-- Items on lines of their own, with a comma behind each but the last. -/
inductive Lines {α : Type} (Item : Text → α → Prop) : Text → List α → Prop where
  | last {t : Text} {x : α} (item : Item t x) : Lines Item t [x]
  | more {t u : Text} {x : α} {xs : List α} (item : Item t x) (rest : Lines Item u xs) :
      Lines Item (t ++ ",\n" ++ u) (x :: xs)

/-- A name, and its value behind it. -/
inductive Named (Item : Text → Json → Prop) : Text → Text × Json → Prop where
  | mk {k t name : Text} {v : Json} (quoted : Quoted k name) (item : Item t v) :
      Named Item (k ++ ": " ++ t) (name, v)

/-- The indented form of a value. The items of an array and the members of an
object stand between the lines of the two brackets, moved to the right; without
items there is one line only. -/
inductive Indented : Text → Json → Prop where
  | scalar {t : Text} {v : Json} (hScalar : v.IsScalar) (value : Value t v) : Indented t v
  | emptyArray : Indented "[]" (.array [])
  | array {t : Text} {xs : List Json} (elements : Lines Indented t xs) :
      Indented ("[" ++ shift ("\n" ++ t) ++ "\n]") (.array xs)
  | emptyObject : Indented "\x7b\x7d" (.object [])
  | object {t : Text} {ms : List (Text × Json)} (members : Lines (Named Indented) t ms) :
      Indented ("\x7b" ++ shift ("\n" ++ t) ++ "\n\x7d") (.object ms)

theorem shift_append (t u : Text) : shift (t ++ u) = shift t ++ shift u :=
  List.flatMap_append

/-- What is no control character stays in its place of the line. -/
theorem shift_cons {c : CodePoint} (hc : 0x20 ≤ c.val) (t : Text) :
    shift (c :: t) = c :: shift t := by
  have hLine : c ≠ .scalar '\n' := by
    rintro rfl
    exact absurd hc (by decide)
  rw [shift, List.flatMap_cons, if_neg hLine]
  rfl

/-- A single line is left alone: only what follows a line feed moves. -/
theorem shift_of_controlFree {t : Text} (h : t.ControlFree) : shift t = t := by
  induction t with
  | nil => rfl
  | cons c t ih =>
      obtain ⟨hc, ht⟩ := List.forall_mem_cons.mp h
      rw [shift_cons hc, ih ht]

/-- Moving lines to the right moves each of them and what stands between them. -/
theorem shift_join (separator : Text) (ts : List Text) :
    shift (Text.join separator ts) = Text.join (shift separator) (ts.map shift) := by
  fun_induction Text.join separator ts with
  | case1 => rfl
  | case2 t => rfl
  | case3 t u rest ih =>
      rw [shift_append, shift_append, ih]
      rfl

/-- A line break that is moved to the right is that of the next level. -/
theorem shift_lineBreak (level : Nat) :
    shift (Style.indented.lineBreak level) = Style.indented.lineBreak (level + 1) := by
  have hSpaces : shift (List.replicate (2 * level) (.scalar ' ')) =
      List.replicate (2 * level) (.scalar ' ') := by
    refine shift_of_controlFree fun c hc => ?_
    rw [List.eq_of_mem_replicate hc]
    decide
  have hLine : Style.indented.lineBreak level =
      Text.ofString "\n" ++ List.replicate (2 * level) (.scalar ' ') := rfl
  rw [hLine, shift_append, hSpaces]
  simp only [Style.lineBreak, Style.indented]
  rw [Nat.mul_succ, Nat.add_comm, List.replicate_add]
  rfl

/-- Brackets one level further down are the brackets moved to the right. -/
theorem bracket_succ (level : Nat) {opening closing : Char}
    (hOpening : 0x20 ≤ (CodePoint.scalar opening).val)
    (hClosing : 0x20 ≤ (CodePoint.scalar closing).val) (ts : List Text) :
    bracket .indented (level + 1) opening closing (ts.map shift) =
      shift (bracket .indented level opening closing ts) := by
  have hComma : shift Style.indented.comma = Style.indented.comma := by rfl
  cases ts with
  | nil =>
      rw [bracket, shift_cons hOpening, shift_cons hClosing]
      rfl
  | cons t ts =>
      simp only [bracket, List.map_cons]
      rw [shift_cons hOpening, shift_append, shift_append, shift_append, shift_cons hClosing,
        shift_join, shift_append, hComma, shift_lineBreak, shift_lineBreak]
      rfl

/-- A name and its value are moved together: there is no line end in a name. -/
theorem shift_named (name t : Text) :
    shift (writeString Style.indented.ascii name ++ Style.indented.colon ++ t) =
      writeString Style.indented.ascii name ++ Style.indented.colon ++ shift t := by
  have hColon : Text.ControlFree Style.indented.colon := by decide
  rw [shift_append, shift_of_controlFree ((controlFree_writeString _ name).append hColon)]

/-- A value one level further down is the value moved to the right: the line
ends in it are those of the layout. -/
theorem writeAt_succ (v : Json) (level : Nat) :
    writeAt .indented (level + 1) v = shift (writeAt .indented level v) := by
  induction v using partsInduction generalizing level with
  | step v ih =>
      have hScalar : v.IsScalar →
          writeAt .indented (level + 1) v = shift (writeAt .indented level v) := by
        intro hv
        rw [(writeAt_of_isScalar .indented level hv).1, (writeAt_of_isScalar .indented _ hv).1,
          shift_of_controlFree (writeAt_of_isScalar .indented level hv).2]
      cases v with
      | array xs =>
          rw [writeAt, writeAt, writeElements_eq_map, writeElements_eq_map,
            ← bracket_succ level (by decide) (by decide), List.map_map]
          congr 1
          exact List.map_congr_left fun x hx => ih x hx (level + 1)
      | object ms =>
          rw [writeAt, writeAt, writeMembers_eq_map, writeMembers_eq_map,
            ← bracket_succ level (by decide) (by decide), List.map_map]
          congr 1
          refine List.map_congr_left fun m hm => ?_
          rw [Function.comp_apply, shift_named, ih m.2 (List.mem_map_of_mem hm) (level + 1)]
      | _ => exact hScalar trivial

/-- Items that are joined by commas and line feeds stand on lines of their own. -/
theorem lines_join {α : Type} {Item : Text → α → Prop} {ts : List Text} {xs : List α}
    (hItems : List.Forall₂ Item ts xs) (hNonempty : ts ≠ []) :
    Lines Item (Text.join ",\n" ts) xs := by
  induction hItems with
  | nil => exact (hNonempty rfl).elim
  | @cons t x ts xs hItem hItems ih =>
      cases hItems with
      | nil => exact .last hItem
      | @cons u y ts xs hNext hItems => exact .more hItem (ih (List.cons_ne_nil _ _))

/-- Written items that are moved to the right stand between two lines. -/
theorem bracket_shift (opening closing : Char) {ts : List Text} (hNonempty : ts ≠ []) :
    bracket .indented 0 opening closing (ts.map shift) =
      [.scalar opening] ++ shift ("\n" ++ Text.join ",\n" ts) ++
        [.scalar '\n', .scalar closing] := by
  obtain ⟨t, ts, rfl⟩ := List.exists_cons_of_ne_nil hNonempty
  rw [shift_append, shift_join]
  simp only [bracket, List.map_cons, List.append_assoc]
  rfl

/-- A portable value is written in indented form. -/
theorem indented_write {v : Json} (hv : v.Portable) : Indented (v.write .indented) v := by
  induction hv with
  | @mk v hPlain hInside ih =>
      have hScalar : v.IsScalar → Indented (v.write .indented) v := fun hScalar =>
        .scalar hScalar (value_writeAt Style.regular_indented ⟨hPlain, hInside⟩ 0)
      cases v with
      | array xs =>
          cases xs with
          | nil => exact .emptyArray
          | cons x xs =>
              have hItems : List.Forall₂ Indented ((x :: xs).map (write .indented)) (x :: xs) := by
                rw [List.forall₂_map_left_iff, List.forall₂_same]
                exact ih
              have hShift : (x :: xs).map (writeAt .indented 1) =
                  ((x :: xs).map (write .indented)).map shift := by
                rw [List.map_map]
                exact List.map_congr_left fun y _ => writeAt_succ y 0
              rw [write, writeAt, writeElements_eq_map, hShift, bracket_shift _ _ (by simp)]
              exact .array (lines_join hItems (by simp))
      | object ms =>
          cases ms with
          | nil => exact .emptyObject
          | cons m ms =>
              let written (m : Text × Json) : Text :=
                writeString Style.indented.ascii m.1 ++ Style.indented.colon ++ m.2.write .indented
              have hItems : List.Forall₂ (Named Indented) ((m :: ms).map written) (m :: ms) := by
                rw [List.forall₂_map_left_iff, List.forall₂_same]
                intro m' hm'
                exact .mk (quoted_writeString _ (hPlain.texts m'.1 (List.mem_map_of_mem hm')))
                  (ih m'.2 (List.mem_map_of_mem hm'))
              have hShift : ((m :: ms).map fun m => writeString Style.indented.ascii m.1 ++
                  Style.indented.colon ++ writeAt .indented 1 m.2) =
                    ((m :: ms).map written).map shift := by
                rw [List.map_map]
                refine List.map_congr_left fun m' _ => ?_
                rw [Function.comp_apply, shift_named, writeAt_succ m'.2 0, write]
              rw [write, writeAt, writeMembers_eq_map, hShift, bracket_shift _ _ (by simp)]
              exact .object (lines_join hItems (by simp))
      | _ => exact hScalar trivial

/-! ### Line ends -/

/-- The line ends are the only control characters in a text. -/
def Lined (t : Text) : Prop := ∀ c ∈ t, c.val < 0x20 → c = .scalar '\n'

instance (t : Text) : Decidable (Lined t) :=
  inferInstanceAs (Decidable (∀ c ∈ t, c.val < 0x20 → c = .scalar '\n'))

theorem Lined.of_controlFree {t : Text} (h : t.ControlFree) : Lined t := fun c hc hControl =>
  absurd (h c hc) (Nat.not_le.mpr hControl)

theorem Lined.append {t u : Text} (ht : Lined t) (hu : Lined u) : Lined (t ++ u) :=
  List.forall_mem_append.mpr ⟨ht, hu⟩

/-- A line break has no control character but its line feed. -/
theorem lined_lineBreak (level : Nat) : Lined (Style.indented.lineBreak level) := by
  have hSpace : Lined (List.replicate (2 * level) (.scalar ' ')) := .of_controlFree fun c hc => by
    rw [List.eq_of_mem_replicate hc]
    decide
  have hEnd : Lined "\n" := by decide
  exact hEnd.append hSpace

/-- Brackets add line feeds only. -/
theorem lined_bracket (level : Nat) {opening closing : Char} (hOpening : Lined [.scalar opening])
    (hClosing : Lined [.scalar closing]) {ts : List Text} (h : ∀ t ∈ ts, Lined t) :
    Lined (bracket .indented level opening closing ts) := by
  have hComma : Lined Style.indented.comma := by decide
  have hInner := lined_lineBreak (level + 1)
  have hJoin : Lined
      (Text.join (Style.indented.comma ++ Style.indented.lineBreak (level + 1)) ts) := by
    intro c hc
    rcases Text.mem_join hc with hc | ⟨t, ht, hc⟩
    · exact hComma.append hInner c hc
    · exact h t ht c hc
  cases ts with
  | nil => exact hOpening.append hClosing
  | cons t ts =>
      exact hOpening.append (((hInner.append hJoin).append (lined_lineBreak level)).append hClosing)

/-- Nothing in a value, surrogates or not, brings a control character into its
indented form: there are only the line ends of the layout. -/
theorem lined_writeAt (v : Json) (level : Nat) : Lined (writeAt .indented level v) := by
  induction v using partsInduction generalizing level with
  | step v ih =>
      have hScalar : v.IsScalar → Lined (writeAt .indented level v) := by
        intro hv
        obtain ⟨hLevel, hFree⟩ := writeAt_of_isScalar .indented level hv
        exact hLevel ▸ .of_controlFree hFree
      cases v with
      | array xs =>
          rw [writeAt, writeElements_eq_map]
          refine lined_bracket level (by decide) (by decide) (List.forall_mem_map.mpr ?_)
          exact fun x hx => ih x hx (level + 1)
      | object ms =>
          rw [writeAt, writeMembers_eq_map]
          refine lined_bracket level (by decide) (by decide) (List.forall_mem_map.mpr ?_)
          intro m hm
          have hColon : Text.ControlFree Style.indented.colon := by decide
          exact (Lined.of_controlFree ((controlFree_writeString _ m.1).append hColon)).append
            (ih m.2 (List.mem_map_of_mem hm) (level + 1))
      | _ => exact hScalar trivial

/-- The indented form reads back, with an end of line behind it. -/
theorem read_write_indented {v : Json} (hv : v.Portable) :
    read (v.write .indented ++ "\n") = .ok v := by
  have hEnd : Blank "\n" := by
    rw [Blank]
    decide
  exact read_eq_ok_iff.mpr
    (.mk (b := []) (by simp [Blank]) (value_writeAt Style.regular_indented hv 0) hEnd)

end Json

end DemurrageToken
