import DemurrageToken.Json.Writer
import DemurrageToken.Proofs.JsonNumbers
import DemurrageToken.Proofs.JsonParts
import Mathlib.Data.List.Forall2

/-! What is written is JSON: in every style whose separators are a comma and a
colon with blanks around them, the text of a portable value derives that value
in the grammar. -/
namespace DemurrageToken.Json

open Grammar

/-! ### Styles -/

/-- The separators are a comma and a colon with blanks around them. -/
structure Style.Regular (style : Style) : Prop where
  comma : ∃ b b', Blank b ∧ Blank b' ∧ style.comma = b ++ .scalar ',' :: b'
  colon : ∃ b b', Blank b ∧ Blank b' ∧ style.colon = b ++ .scalar ':' :: b'

theorem Style.regular_canonical : Style.canonical.Regular where
  comma := ⟨[], [], by simp [Blank], by simp [Blank], rfl⟩
  colon := ⟨[], [], by simp [Blank], by simp [Blank], rfl⟩

/-! ### Strings -/

/-- The last of some padded digits stands for the remainder, the ones before
it for the quotient. -/
theorem padded_toDigits {width : Nat} (hWidth : 0 < width) (n : Nat) :
    List.replicate (width + 1 - (Nat.toDigits 16 n).length) '0' ++ Nat.toDigits 16 n =
      List.replicate (width - (Nat.toDigits 16 (n / 16)).length) '0' ++
        Nat.toDigits 16 (n / 16) ++ [(n % 16).digitChar] := by
  by_cases hSmall : n < 16
  · have hZeros : List.replicate width '0' = List.replicate (width - 1) '0' ++ ['0'] := by
      rw [← List.replicate_succ', Nat.sub_add_cancel hWidth]
    rw [Nat.toDigits_of_lt_base hSmall, Nat.div_eq_of_lt hSmall, Nat.mod_eq_of_lt hSmall,
      Nat.toDigits_zero, List.length_singleton, List.length_singleton, Nat.add_sub_cancel, hZeros]
  · rw [Nat.toDigits_of_base_le (n := n) (by decide) (Nat.le_of_not_lt hSmall), List.length_append,
      List.length_singleton, Nat.add_sub_add_right, List.append_assoc]

/-- Four hexadecimal digits of a code unit, the first one counting most. -/
theorem hex_four {n : Nat} (h : n < 0x10000) :
    Text.hex 4 n = Text.ofChars [(n / 0x1000).digitChar, (n / 0x100 % 16).digitChar,
      (n / 0x10 % 16).digitChar, (n % 16).digitChar] := by
  have hFirst : n / 16 / 16 / 16 = n / 0x1000 := by omega
  have hSecond : n / 16 / 16 = n / 0x100 := by omega
  rw [Text.hex, padded_toDigits (by decide), padded_toDigits (by decide),
    padded_toDigits (by decide), hFirst, hSecond, Nat.toDigits_of_lt_base (by omega)]
  rfl

theorem hexDigit_digitChar {n : Nat} (h : n < 16) : HexDigit (.scalar n.digitChar) n :=
  ⟨h, .inl rfl⟩

/-- An escape spells the code unit whose digits it has. -/
theorem spelling_unicodeEscape {n : Nat} (h : n < 0x10000) {u : Text} {ps : List Piece}
    (rest : Spelling u ps) : Spelling (unicodeEscape n ++ u) (.unit n :: ps) := by
  have hEscape := Spelling.unit (hexDigit_digitChar (n := n / 0x1000) (by omega))
    (hexDigit_digitChar (n := n / 0x100 % 16) (by omega))
    (hexDigit_digitChar (n := n / 0x10 % 16) (by omega))
    (hexDigit_digitChar (n := n % 16) (by omega)) rest
  have hUnit :
      n / 0x1000 * 0x1000 + n / 0x100 % 16 * 0x100 + n / 0x10 % 16 * 0x10 + n % 16 = n := by
    omega
  rw [hUnit] at hEscape
  rw [unicodeEscape, hex_four h]
  exact hEscape

/-- The four ways to write a code point between quotes. -/
theorem escape_cases (ascii : Bool) (c : CodePoint) :
    (∃ letter meaning, (letter, meaning) ∈ shortEscapes ∧ c = .scalar meaning ∧
      escape ascii c = [.scalar '\\', .scalar letter]) ∨
    (0x20 ≤ c.val ∧ (ascii = true → c.val ≤ 0x7E) ∧ c ≠ .scalar '"' ∧ c ≠ .scalar '\\' ∧
      escape ascii c = [c]) ∨
    (c.val < 0x10000 ∧ escape ascii c = unicodeEscape c.val) ∨
    (0x10000 ≤ c.val ∧ escape ascii c = unicodeEscape (0xD800 + (c.val - 0x10000) / 0x400) ++
      unicodeEscape (0xDC00 + (c.val - 0x10000) % 0x400)) := by
  by_cases hQuote : c = .scalar '"'
  · exact .inl ⟨'"', '"', by decide, hQuote, by rw [hQuote]; rfl⟩
  by_cases hBackslash : c = .scalar '\\'
  · exact .inl ⟨'\\', '\\', by decide, hBackslash, by rw [hBackslash]; rfl⟩
  by_cases hLine : c = .scalar '\n'
  · exact .inl ⟨'n', '\n', by decide, hLine, by rw [hLine]; rfl⟩
  by_cases hReturn : c = .scalar '\r'
  · exact .inl ⟨'r', '\r', by decide, hReturn, by rw [hReturn]; rfl⟩
  by_cases hTab : c = .scalar '\t'
  · exact .inl ⟨'t', '\t', by decide, hTab, by rw [hTab]; rfl⟩
  by_cases hForm : c = .scalar '\x0c'
  · exact .inl ⟨'f', '\x0c', by decide, hForm, by rw [hForm]; rfl⟩
  by_cases hBack : c = .scalar '\x08'
  · exact .inl ⟨'b', '\x08', by decide, hBack, by rw [hBack]; rfl⟩
  right
  rw [escape, if_neg hQuote, if_neg hBackslash, if_neg hLine, if_neg hReturn, if_neg hTab,
    if_neg hForm, if_neg hBack]
  split
  · exact .inr (.inl ⟨by omega, rfl⟩)
  split
  · next hShown =>
      refine .inl ⟨by omega, fun hAscii => ?_, hQuote, hBackslash, rfl⟩
      simpa [hAscii] using hShown
  split
  · exact .inr (.inl ⟨by omega, rfl⟩)
  · exact .inr (.inr ⟨by omega, rfl⟩)

/-- One code point is spelled as it stands, with a short escape, or in one or
two units. A unit that is no surrogate joins with nothing. -/
theorem spelling_escape (ascii : Bool) {c : CodePoint} (hc : c.isSurrogate = false) {u s : Text}
    {ps : List Piece} (hSpelling : Spelling u ps) (hJoined : Joined ps s) :
    ∃ ps', Spelling (escape ascii c ++ u) ps' ∧ Joined ps' (c :: s) := by
  have hMax := c.val_le
  have hRange : ¬(0xD800 ≤ c.val ∧ c.val ≤ 0xDFFF) := by
    rw [← CodePoint.isSurrogate_iff, hc]
    exact Bool.false_ne_true
  rcases escape_cases ascii c with ⟨letter, meaning, hShort, rfl, hEq⟩ |
    ⟨hControl, -, hQuote, hBackslash, hEq⟩ | ⟨hVal, hEq⟩ | ⟨hVal, hEq⟩
  · exact ⟨_, hEq ▸ .short hShort hSpelling, .plain hJoined⟩
  · exact ⟨_, hEq ▸ .plain hControl hQuote hBackslash hSpelling, .plain hJoined⟩
  · have hAlone := Joined.alone (n := c.val) (fun low more _ hPair => hRange
      ⟨hPair.1.1, hPair.1.2.trans (by decide)⟩) hJoined
    rw [CodePoint.ofNat_val] at hAlone
    exact ⟨_, hEq ▸ spelling_unicodeEscape hVal hSpelling, hAlone⟩
  · have hCode : 0x10000 + (0xD800 + (c.val - 0x10000) / 0x400 - 0xD800) * 0x400 +
        (0xDC00 + (c.val - 0x10000) % 0x400 - 0xDC00) = c.val := by omega
    have hPair := @Joined.pair (0xD800 + (c.val - 0x10000) / 0x400)
      (0xDC00 + (c.val - 0x10000) % 0x400) _ _ ⟨by omega, by omega⟩ ⟨by omega, by omega⟩ hJoined
    rw [hCode, CodePoint.ofNat_val] at hPair
    refine ⟨_, ?_, hPair⟩
    rw [hEq, List.append_assoc]
    exact spelling_unicodeEscape (by omega) (spelling_unicodeEscape (by omega) hSpelling)

/-- A string without surrogates is written as itself. -/
theorem quoted_writeString (ascii : Bool) {t : Text} (ht : t.SurrogateFree) :
    Quoted (writeString ascii t) t := by
  obtain ⟨ps, hSpelling, hJoined⟩ :
      ∃ ps, Spelling (t.flatMap (escape ascii)) ps ∧ Joined ps t := by
    induction t with
    | nil => exact ⟨[], .nil, .nil⟩
    | cons c t ih =>
        rw [Text.SurrogateFree.cons_iff] at ht
        obtain ⟨ps, hSpelling, hJoined⟩ := ih ht.2
        exact spelling_escape ascii ht.1 hSpelling hJoined
  exact .mk hSpelling hJoined

/-! ### Brackets -/

/-- Written items with a separator between them, and blanks behind the last. -/
theorem series_join {α : Type} {Item : Text → α → Prop} {b b' last : Text} (hb : Blank b)
    (hb' : Blank b') (hLast : Blank last) {ts : List Text} {xs : List α}
    (hItems : List.Forall₂ Item ts xs) (hNonempty : ts ≠ []) :
    Series Item (Text.join (b ++ .scalar ',' :: b') ts ++ last) xs := by
  induction hItems with
  | nil => exact (hNonempty rfl).elim
  | @cons t x ts xs hItem hItems ih =>
      cases hItems with
      | nil => exact .last hItem hLast
      | @cons u y ts xs hNext hItems =>
          have hSeries := Series.more hItem hb hb' (ih (List.cons_ne_nil _ _))
          simpa [Text.join] using hSeries

/-- A line break is blank, in every style. -/
theorem blank_lineBreak (style : Style) (level : Nat) : Blank (style.lineBreak level) := by
  intro c hc
  unfold Style.lineBreak at hc
  split at hc
  · cases hc
  · rcases List.mem_cons.mp hc with rfl | hc
    · decide
    · rw [List.eq_of_mem_replicate hc]
      decide

theorem Grammar.Blank.append {b b' : Text} (hb : Blank b) (hb' : Blank b') : Blank (b ++ b') := by
  intro c hc
  rcases List.mem_append.mp hc with hc | hc
  · exact hb c hc
  · exact hb' c hc

/-- Brackets stand around a series, or around nothing if there are no items. -/
theorem bracket_series {style : Style} (hStyle : style.Regular) {α : Type}
    {Item : Text → α → Prop} (level : Nat) (opening closing : Char) {ts : List Text}
    {xs : List α} (hItems : List.Forall₂ Item ts xs) (hNonempty : xs ≠ []) :
    ∃ b t, Blank b ∧ Series Item t xs ∧
      bracket style level opening closing ts =
        .scalar opening :: (b ++ t ++ [.scalar closing]) := by
  obtain ⟨b, b', hb, hb', hComma⟩ := hStyle.comma
  have hInner := blank_lineBreak style (level + 1)
  cases hItems with
  | nil => exact (hNonempty rfl).elim
  | cons hItem hItems =>
      have hSeries := series_join hb (hb'.append hInner) (blank_lineBreak style level)
        (.cons hItem hItems) (List.cons_ne_nil _ _)
      refine ⟨_, _, hInner, hSeries, ?_⟩
      simp only [bracket, hComma, List.append_assoc, List.cons_append]

theorem writeElements_eq_map (style : Style) (level : Nat) (xs : List Json) :
    writeElements style level xs = xs.map (writeAt style level) := by
  induction xs with
  | nil => rfl
  | cons x xs ih => rw [writeElements, ih, List.map_cons]

theorem writeMembers_eq_map (style : Style) (level : Nat) (ms : List (Text × Json)) :
    writeMembers style level ms = ms.map fun m =>
      writeString style.ascii m.1 ++ style.colon ++ writeAt style level m.2 := by
  induction ms with
  | nil => rfl
  | cons m ms ih => rw [writeMembers, ih, List.map_cons]

/-! ### Values -/

/-- A member that is written is one of the grammar. -/
theorem member_write {style : Style} (hStyle : style.Regular) {m : Text × Json}
    (hName : m.1.SurrogateFree) {t : Text} (hValue : Value t m.2) :
    Member Value (writeString style.ascii m.1 ++ style.colon ++ t) m := by
  obtain ⟨b, b', hb, hb', hColon⟩ := hStyle.colon
  have hMember := Member.mk (quoted_writeString style.ascii hName) hb hb' hValue
  rw [hColon]
  simpa only [List.append_assoc, List.cons_append] using hMember

/-- A written value derives the value, at every level of nesting. -/
theorem value_writeAt {style : Style} (hStyle : style.Regular) {v : Json} (hv : v.Portable)
    (level : Nat) : Value (writeAt style level v) v := by
  induction hv generalizing level with
  | @mk v hPlain _ ih =>
      cases v with
      | null => exact .word .null
      | bool b => cases b with
        | true => exact .word .true
        | false => exact .word .false
      | int n => exact .number (number_ofInt (hPlain.digits n rfl))
      | float x => cases x with
        | nan => exact .word .nan
        | infinite negative => cases negative with
          | true => exact .word .negativeInfinity
          | false => exact .word .infinity
        | finite negative magnitude => exact .number (number_write numberStyle negative magnitude)
      | string t =>
          exact .string (quoted_writeString style.ascii (hPlain.texts t (by simp [texts])))
      | array xs =>
          rw [writeAt, writeElements_eq_map]
          cases xs with
          | nil => exact .emptyArray (b := []) (by simp [Blank])
          | cons x xs =>
              have hItems : List.Forall₂ Value ((x :: xs).map (writeAt style (level + 1)))
                  (x :: xs) := by
                rw [List.forall₂_map_left_iff, List.forall₂_same]
                exact fun y hy => ih y hy (level + 1)
              obtain ⟨b, t, hb, hSeries, hEq⟩ := bracket_series hStyle level '[' ']' hItems
                (List.cons_ne_nil _ _)
              rw [hEq]
              exact .array hb hSeries
      | object ms =>
          rw [writeAt, writeMembers_eq_map]
          cases ms with
          | nil => exact .emptyObject (b := []) (by simp [Blank])
          | cons m ms =>
              have hItems : List.Forall₂ (Member Value) ((m :: ms).map fun m =>
                  writeString style.ascii m.1 ++ style.colon ++ writeAt style (level + 1) m.2)
                  (m :: ms) := by
                rw [List.forall₂_map_left_iff, List.forall₂_same]
                intro m' hm'
                have hName := hPlain.texts m'.1 (List.mem_map_of_mem hm')
                exact member_write hStyle hName (ih m'.2 (List.mem_map_of_mem hm') (level + 1))
              obtain ⟨b, t, hb, hSeries, hEq⟩ := bracket_series hStyle level '\x7b' '\x7d' hItems
                (List.cons_ne_nil _ _)
              have hTable := Entries.ofList_of_nodup (hPlain.names _ rfl)
              rw [hEq]
              exact .object hb hSeries (merged_iff.mpr hTable.symm)

/-- A portable value that is written derives itself in the grammar, in every regular
style. -/
theorem document_write {style : Style} (hStyle : style.Regular) {v : Json} (hv : v.Portable) :
    Document (v.write style) v := by
  have hDocument := @Document.mk [] _ [] v (by simp [Blank]) (value_writeAt hStyle hv 0)
    (by simp [Blank])
  rwa [List.append_nil, List.nil_append] at hDocument

/-! ### Surrogates -/

theorem surrogateFree_unicodeEscape (n : Nat) : (unicodeEscape n).SurrogateFree :=
  Text.SurrogateFree.append_iff.mpr ⟨.ofChars _, .ofChars _⟩

/-- Outside ASCII style an escape is free of surrogates unless it keeps one. -/
theorem surrogateFree_escape_iff (c : CodePoint) :
    (escape false c).SurrogateFree ↔ c.isSurrogate = false := by
  cases c with
  | scalar char =>
      refine iff_of_true ?_ rfl
      rcases escape_cases false (.scalar char) with ⟨letter, meaning, -, -, hEq⟩ |
        ⟨-, -, -, -, hEq⟩ |
        ⟨-, hEq⟩ | ⟨-, hEq⟩
      · exact hEq ▸ .ofChars ['\\', letter]
      · exact hEq ▸ .ofChars [char]
      · exact hEq ▸ surrogateFree_unicodeEscape _
      · exact hEq ▸ Text.SurrogateFree.append_iff.mpr
          ⟨surrogateFree_unicodeEscape _, surrogateFree_unicodeEscape _⟩
  | surrogate index =>
      have hControl : ¬0xD800 + index.val < 0x20 := by omega
      have hEscape : escape false (.surrogate index) = [.surrogate index] := by
        simp [escape, CodePoint.val, hControl]
      simp [hEscape, Text.SurrogateFree]

/-- A string is written with exactly the surrogates that it holds. -/
theorem surrogateFree_writeString_iff (t : Text) :
    (writeString false t).SurrogateFree ↔ t.SurrogateFree := by
  have hBody : Text.SurrogateFree (t.flatMap (escape false)) ↔ t.SurrogateFree := by
    induction t with
    | nil => rfl
    | cons c t ih =>
        rw [List.flatMap_cons, Text.SurrogateFree.append_iff, Text.SurrogateFree.cons_iff, ih,
          surrogateFree_escape_iff]
  rw [writeString, Text.SurrogateFree.cons_iff, Text.SurrogateFree.append_iff, hBody]
  simp [Text.SurrogateFree, CodePoint.isSurrogate]

/-- Joined texts are free of surrogates if each of them is. -/
theorem surrogateFree_join_iff {separator : Text} (hSeparator : separator.SurrogateFree)
    (ts : List Text) :
    (Text.join separator ts).SurrogateFree ↔ ∀ t ∈ ts, t.SurrogateFree := by
  fun_induction Text.join separator ts with
  | case1 => simp [Text.SurrogateFree.nil]
  | case2 t => simp
  | case3 t u rest ih =>
      rw [Text.SurrogateFree.append_iff, Text.SurrogateFree.append_iff, ih,
        List.forall_mem_cons (a := t)]
      simp only [hSeparator, and_true]

theorem surrogateFree_lineBreak (style : Style) (level : Nat) :
    (style.lineBreak level).SurrogateFree := by
  intro c hc
  have hBlanks : ∀ c ∈ Text.ofString " \t\n\r", c.isSurrogate = false := by decide
  exact hBlanks c (blank_lineBreak style level c hc)

/-- Brackets add no surrogates. -/
theorem surrogateFree_bracket_iff {style : Style} (hComma : style.comma.SurrogateFree)
    (level : Nat) (opening closing : Char) (ts : List Text) :
    (bracket style level opening closing ts).SurrogateFree ↔ ∀ t ∈ ts, t.SurrogateFree := by
  unfold bracket
  split
  · simp [Text.SurrogateFree, CodePoint.isSurrogate]
  · have hInner := surrogateFree_lineBreak style (level + 1)
    have hOuter := surrogateFree_lineBreak style level
    have hSeparator := Text.SurrogateFree.append_iff.mpr ⟨hComma, hInner⟩
    simp only [Text.SurrogateFree.cons_iff, Text.SurrogateFree.append_iff,
      surrogateFree_join_iff hSeparator, hInner, hOuter, CodePoint.isSurrogate,
      Text.SurrogateFree.nil, true_and, and_true]

theorem surrogateFree_ofInt (n : Int) : (Text.ofInt n).SurrogateFree := by
  cases n with
  | ofNat n => exact .ofChars _
  | negSucc n => exact Text.SurrogateFree.cons_iff.mpr ⟨rfl, .ofChars _⟩

theorem surrogateFree_writeFloat (x : Binary64) : (x.write numberStyle).SurrogateFree := by
  cases x with
  | nan => exact .ofChars _
  | infinite negative =>
      cases negative with
      | true => exact .ofChars "-Infinity".toList
      | false => exact .ofChars _
  | finite negative magnitude =>
      cases negative with
      | true => exact Text.SurrogateFree.cons_iff.mpr ⟨rfl, .ofChars _⟩
      | false => exact .ofChars _

/-- Without escapes beyond the necessary ones, the surrogates of a written
value are those of its strings and names. -/
theorem surrogateFree_writeAt_iff {style : Style} (hAscii : style.ascii = false)
    (hComma : style.comma.SurrogateFree) (hColon : style.colon.SurrogateFree) (v : Json)
    (level : Nat) : (writeAt style level v).SurrogateFree ↔ v.SurrogateFree := by
  induction v using partsInduction generalizing level with
  | step v ih =>
      have hLeaf : v.texts = [] → v.parts = [] → v.SurrogateFree := by
        intro hTexts hParts
        rw [surrogateFree_iff, hTexts, hParts]
        simp
      cases v with
      | null => exact iff_of_true (.ofChars _) (hLeaf rfl rfl)
      | bool b => cases b <;> exact iff_of_true (.ofChars _) (hLeaf rfl rfl)
      | int n => exact iff_of_true (surrogateFree_ofInt n) (hLeaf rfl rfl)
      | float x => exact iff_of_true (surrogateFree_writeFloat x) (hLeaf rfl rfl)
      | string t =>
          rw [writeAt, hAscii, surrogateFree_writeString_iff, surrogateFree_iff]
          simp [texts, parts]
      | array xs =>
          rw [writeAt, writeElements_eq_map, surrogateFree_bracket_iff hComma, List.forall_mem_map,
            surrogateFree_iff]
          simp only [texts, List.not_mem_nil, false_implies, implies_true, true_and]
          exact forall₂_congr fun w hw => ih w hw (level + 1)
      | object ms =>
          rw [writeAt, writeMembers_eq_map, surrogateFree_bracket_iff hComma, List.forall_mem_map,
            surrogateFree_iff, texts, parts, List.forall_mem_map, List.forall_mem_map,
            ← forall₂_and]
          refine forall₂_congr fun m hm => ?_
          rw [Text.SurrogateFree.append_iff, Text.SurrogateFree.append_iff, hAscii,
            surrogateFree_writeString_iff, ih m.2 (List.mem_map_of_mem hm)]
          simp only [hColon, and_true]

end DemurrageToken.Json
